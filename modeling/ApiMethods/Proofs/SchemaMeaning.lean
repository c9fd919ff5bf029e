/-
  ApiMethods.Proofs.SchemaMeaning
  ───────────────────────────────
  **WHICH KEYWORDS DECIDE WHAT A SCHEMA MEANS.**

  The type of a body is computed from many keywords; what it comes to is decided by a few:

      the body                                          means
      WRAPS one schema under `allOf`                    what that schema means
      DESCRIBES AN ARRAY                                an array of its items
      DESCRIBES AN OBJECT                               an object with its properties, or nothing
      anything else                                     a simple type, or nothing

  where a body without composition describes what it names as its only type besides `null`, and
  when it names no type, an object if it has something to say of properties, else an array if it
  has items.  `ofBody_reading` is this table.  In the last row the members of the body do not
  matter (`ofBody_members`).

  `ofSchema_induct` is the induction along this table, for what all schemas have in common.

  §4 says what becomes of a meaning when the members of a body change: its top stays, and below
  that only the members that the body SHOWS have a say, the items of an array and the properties
  of an object.
-/
import Mathlib.Logic.Basic
import Mathlib.Tactic.ByContra
import ApiMethods.Proofs.Resolution
import ApiMethods.Types.OfSchema

namespace ApiMethods

open Document (Schema SchemaBody TypeName TypeSpec Additional)

/-! ## §1. What a body describes. -/

namespace Document.SchemaBody

variable {σ τ : Type}

/-- The body is not composed of other schemas. -/
def Plain (b : SchemaBody σ) : Prop := b.oneOf = [] ∧ b.anyOf = [] ∧ b.allOf = []

/-- The body is composed of one schema alone. -/
def Wraps (b : SchemaBody σ) (s : σ) : Prop := b.oneOf = [] ∧ b.anyOf = [] ∧ b.allOf = [s]

/-- The body names a type, and no other besides `null`. -/
def Names (b : SchemaBody σ) (t : TypeName) : Prop :=
  b.type = some (.one t) ∨
  ∃ ts, b.type = some (.several ts) ∧ ts.filter (· ≠ .null) = [t]

/-- The values of the body are arrays. -/
def DescribesArray (b : SchemaBody σ) : Prop :=
  b.Plain ∧ (b.Names .array ∨
    b.type = none ∧ b.properties = [] ∧ b.additional = none ∧ b.items ≠ none)

/-- The values of the body are objects. -/
def DescribesObject (b : SchemaBody σ) : Prop :=
  b.Plain ∧ (b.Names .object ∨ b.type = none ∧ (b.properties ≠ [] ∨ b.additional ≠ none))

variable (f : σ → τ) (b : SchemaBody σ)

/-! Changing the parts of a body changes nothing in this. -/

theorem plain_map : (b.map f).Plain ↔ b.Plain := by
  simp [Plain, SchemaBody.map]

theorem wraps_map (t : τ) : (b.map f).Wraps t ↔ ∃ s, b.Wraps s ∧ f s = t := by
  simp only [Wraps, SchemaBody.map, List.map_eq_nil_iff, List.map_eq_singleton_iff]
  constructor
  · rintro ⟨hone, hany, s, hall, rfl⟩
    exact ⟨s, ⟨hone, hany, hall⟩, rfl⟩
  · rintro ⟨s, ⟨hone, hany, hall⟩, rfl⟩
    exact ⟨hone, hany, s, hall, rfl⟩

theorem names_map (t : TypeName) : (b.map f).Names t ↔ b.Names t := Iff.rfl

theorem properties_map_eq_nil : (b.map f).properties = [] ↔ b.properties = [] := by
  simp [SchemaBody.map, Table.mapValues]

theorem describesArray_map : (b.map f).DescribesArray ↔ b.DescribesArray := by
  simp only [DescribesArray, plain_map, names_map, properties_map_eq_nil]
  simp [SchemaBody.map]

theorem describesObject_map : (b.map f).DescribesObject ↔ b.DescribesObject := by
  simp only [DescribesObject, plain_map, names_map, ne_eq, properties_map_eq_nil]
  simp [SchemaBody.map]

theorem describesArray_mapMembers (f : σ → σ) :
    (b.mapMembers f).DescribesArray ↔ b.DescribesArray := by
  simp [DescribesArray, Plain, Names, mapMembers, Table.mapValues]

theorem describesObject_mapMembers (f : σ → σ) :
    (b.mapMembers f).DescribesObject ↔ b.DescribesObject := by
  simp [DescribesObject, Plain, Names, mapMembers, Table.mapValues]

end Document.SchemaBody

/-! ## §2. From the keywords to the type. -/

namespace ValueType

variable {b : SchemaBody ValueType}

theorem ofBody_of_wraps {t : ValueType} (h : b.Wraps t) : ofBody b = t := by
  obtain ⟨hone, hany, hall⟩ := h
  simp [ofBody, hone, hany, hall]

theorem ofBody_of_plain (h : b.Plain) : ofBody b = ofTypeKeyword b := by
  obtain ⟨hone, hany, hall⟩ := h
  simp [ofBody, hone, hany, hall]

theorem ofTypeKeyword_of_names {t : TypeName} (h : b.Names t) : ofTypeKeyword b = ofNamed b t := by
  rcases h with htype | ⟨ts, htype, hts⟩
  · simp [ofTypeKeyword, htype]
  · simp only [ofTypeKeyword, htype, hts]

theorem ofBody_of_array (h : b.DescribesArray) : ofBody b = arrayOf b := by
  obtain ⟨hplain, hnames | ⟨htype, hproperties, hadditional, hitems⟩⟩ := h
  · rw [ofBody_of_plain hplain, ofTypeKeyword_of_names hnames]
    rfl
  · rw [ofBody_of_plain hplain]
    have hsome : b.items.isSome = true := Option.isSome_iff_ne_none.mpr hitems
    simp [ofTypeKeyword, inferred, htype, hproperties, hadditional, hsome]

theorem ofBody_of_object (h : b.DescribesObject) : ofBody b = objectOf b := by
  obtain ⟨hplain, hnames | ⟨htype, hparts⟩⟩ := h
  · rw [ofBody_of_plain hplain, ofTypeKeyword_of_names hnames]
    rfl
  · rw [ofBody_of_plain hplain]
    have hsay : (!b.properties.isEmpty || b.additional.isSome) = true := by
      simpa [Option.isSome_iff_ne_none] using hparts
    simp [ofTypeKeyword, inferred, htype, hsay]

/-- What a body means that names a type, by the type. -/
theorem ofNamed_reading (b : SchemaBody ValueType) (t : TypeName) :
    t = .array ∨ t = .object ∨ (∃ p, ofNamed b t = .primitive p) ∨ ofNamed b t = .unresolved := by
  cases t with
  | array => exact .inl rfl
  | object => exact .inr (.inl rfl)
  | null => exact .inr (.inr (.inr rfl))
  | other name => exact .inr (.inr (.inr rfl))
  | string | number | integer | boolean => exact .inr (.inr (.inl ⟨_, rfl⟩))

/-- **WHAT A BODY MEANS**, by what it describes. -/
theorem ofBody_reading (b : SchemaBody ValueType) :
    b.Wraps (ofBody b) ∨ b.DescribesArray ∨ b.DescribesObject ∨
    (∃ p, ofBody b = .primitive p) ∨ ofBody b = .unresolved := by
  by_cases hchoice : b.oneOf = [] ∧ b.anyOf = []
  · obtain ⟨hone, hany⟩ := hchoice
    cases hall : b.allOf with
    | cons only rest =>
      cases rest with
      | nil =>
        have hwraps : b.Wraps only := ⟨hone, hany, hall⟩
        rw [ofBody_of_wraps hwraps]
        exact .inl hwraps
      | cons _ _ =>
        refine .inr (.inr (.inr (.inr ?_)))
        simp [ofBody, hone, hany, hall]
    | nil =>
      have hplain : b.Plain := ⟨hone, hany, hall⟩
      -- a body that names its type is read by the name
      have hnamed : ∀ t, b.Names t → b.DescribesArray ∨ b.DescribesObject ∨
          (∃ p, ofBody b = .primitive p) ∨ ofBody b = .unresolved := by
        intro t ht
        rw [ofBody_of_plain hplain, ofTypeKeyword_of_names ht]
        rcases ofNamed_reading b t with rfl | rfl | h
        · exact .inl ⟨hplain, .inl ht⟩
        · exact .inr (.inl ⟨hplain, .inl ht⟩)
        · exact .inr (.inr h)
      cases htype : b.type with
      | some spec =>
        cases spec with
        | one t => exact .inr (hnamed t (.inl htype))
        | several ts =>
          by_cases honly : ∃ t, ts.filter (· ≠ .null) = [t]
          · obtain ⟨t, ht⟩ := honly
            exact .inr (hnamed t (.inr ⟨ts, htype, ht⟩))
          · refine .inr (.inr (.inr (.inr ?_)))
            rw [ofBody_of_plain hplain]
            simp only [ofTypeKeyword, htype]
            split
            · rename_i t ht
              exact absurd ⟨t, ht⟩ honly
            · rfl
      | none =>
        by_cases hobject : b.properties ≠ [] ∨ b.additional ≠ none
        · exact .inr (.inr (.inl ⟨hplain, .inr ⟨htype, hobject⟩⟩))
        · obtain ⟨hproperties, hadditional⟩ : b.properties = [] ∧ b.additional = none := by
            simpa using hobject
          cases hitems : b.items with
          | some s =>
            refine .inr (.inl ⟨hplain, .inr ⟨htype, hproperties, hadditional, ?_⟩⟩)
            simp [hitems]
          | none =>
            -- what is left is a list of texts to choose from, or nothing
            refine .inr (.inr (.inr ?_))
            rw [ofBody_of_plain hplain]
            simp only [ofTypeKeyword, inferred, htype, hproperties, hadditional, hitems]
            by_cases hchoices : (!b.choices.isEmpty && b.choices.all Json.isText) = true
            · exact .inl ⟨.string, by simp [hchoices, string]⟩
            · exact .inr (by simp [hchoices])
  · refine .inr (.inr (.inr (.inr ?_)))
    have hsome : (!b.oneOf.isEmpty || !b.anyOf.isEmpty) = true := by
      rw [Bool.or_eq_true, Bool.not_eq_true', Bool.not_eq_true', List.isEmpty_eq_false_iff,
        List.isEmpty_eq_false_iff]
      exact not_and_or.mp hchoice
    simp [ofBody, hsome]

/-- An object means its properties, or nothing when it may have none. -/
theorem objectOf_reading (b : SchemaBody ValueType) :
    objectOf b = .object b.properties ∨ objectOf b = .unresolved := by
  unfold objectOf
  split
  · exact .inr rfl
  · exact .inl rfl

section Members

variable {properties : List (String × ValueType)} {items : Option ValueType}

theorem ofNamed_members {t : TypeName} (harray : t ≠ .array) (hobject : t ≠ .object) :
    ofNamed { b with properties := properties, items := items } t = ofNamed b t := by
  cases t with
  | array => exact absurd rfl harray
  | object => exact absurd rfl hobject
  | string | integer | number | boolean | null | other _ => rfl

/-- **MEMBERS MATTER ONLY TO ARRAYS AND OBJECTS**: any other body means the same with other
members. -/
theorem ofBody_members (harray : ¬ b.DescribesArray) (hobject : ¬ b.DescribesObject)
    (hproperties : b.properties = [] → properties = []) (hitems : b.items = none → items = none) :
    ofBody { b with properties := properties, items := items } = ofBody b := by
  have hkeyword : b.Plain → ofTypeKeyword { b with properties := properties, items := items }
      = ofTypeKeyword b := by
    intro hplain
    have hnamed : ∀ t, b.Names t →
        ofNamed { b with properties := properties, items := items } t = ofNamed b t := by
      intro t ht
      refine ofNamed_members ?_ ?_
      · rintro rfl
        exact harray ⟨hplain, .inl ht⟩
      · rintro rfl
        exact hobject ⟨hplain, .inl ht⟩
    unfold ofTypeKeyword
    dsimp only
    cases htype : b.type with
    | some spec =>
      cases spec with
      | one t => exact hnamed t (.inl htype)
      | several ts =>
        dsimp only
        split
        · rename_i t ht
          exact hnamed t (.inr ⟨ts, htype, ht⟩)
        · rfl
    | none =>
      -- a body without a type that is neither has no members at all
      have hnothing : b.properties = [] ∧ b.additional = none ∧ b.items = none := by
        by_contra hsome
        by_cases hobj : b.properties = [] ∧ b.additional = none
        · exact harray ⟨hplain, .inr ⟨htype, hobj.1, hobj.2, fun h => hsome ⟨hobj.1, hobj.2, h⟩⟩⟩
        · exact hobject ⟨hplain, .inr ⟨htype, not_and_or.mp hobj⟩⟩
      obtain ⟨hnoProperties, hadditional, hnoItems⟩ := hnothing
      simp [inferred, hadditional, hproperties hnoProperties, hitems hnoItems, hnoProperties,
        hnoItems]
  unfold ofBody
  dsimp only
  split
  · rfl
  · rename_i hchoice
    cases hall : b.allOf with
    | nil =>
      have hplain : b.Plain := by
        simp only [Bool.or_eq_true, Bool.not_eq_true', List.isEmpty_eq_false_iff, not_or,
          not_not] at hchoice
        exact ⟨hchoice.1, hchoice.2, hall⟩
      exact hkeyword hplain
    | cons only rest => cases rest <;> rfl

end Members

/-! ## §3. Schemas. -/

variable {b : SchemaBody Schema}

/-- A wrapper means what it wraps. -/
theorem ofSchema_of_wraps {s : Schema} (h : b.Wraps s) : ofSchema (.inline b) = ofSchema s := by
  rw [ofSchema_inline]
  exact ofBody_of_wraps ((b.wraps_map ofSchema _).mpr ⟨s, h, rfl⟩)

theorem ofSchema_of_array (h : b.DescribesArray) :
    ofSchema (.inline b) = .array ((b.items.map ofSchema).getD .unresolved) := by
  rw [ofSchema_inline]
  exact ofBody_of_array ((b.describesArray_map ofSchema).mpr h)

theorem ofSchema_of_object (h : b.DescribesObject) :
    ofSchema (.inline b) = objectOf (b.map ofSchema) := by
  rw [ofSchema_inline]
  exact ofBody_of_object ((b.describesObject_map ofSchema).mpr h)

/-- **WHAT A SCHEMA MEANS** that is no reference, by what it describes. -/
theorem ofSchema_reading (b : SchemaBody Schema) :
    (∃ s, b.Wraps s) ∨ b.DescribesArray ∨ b.DescribesObject ∨
    (∃ p, ofSchema (.inline b) = .primitive p) ∨ ofSchema (.inline b) = .unresolved := by
  rw [ofSchema_inline]
  rcases ofBody_reading (b.map ofSchema) with hwraps | harray | hobject | hrest
  · obtain ⟨s, hs, -⟩ := (b.wraps_map ofSchema _).mp hwraps
    exact .inl ⟨s, hs⟩
  · exact .inr (.inl ((b.describesArray_map ofSchema).mp harray))
  · exact .inr (.inr (.inl ((b.describesObject_map ofSchema).mp hobject)))
  · exact .inr (.inr (.inr hrest))

/-- A schema under `allOf` is smaller than the schema above it. -/
theorem sizeOf_lt_of_mem_allOf {s : Schema} (h : s ∈ b.allOf) :
    sizeOf s < sizeOf (Schema.inline b) := by
  have hs : sizeOf s < sizeOf b.allOf := List.sizeOf_lt_of_mem h
  obtain ⟨_, _, _, _, _, _, _, _, _, _, _, _, _, _⟩ := b
  simp only [Schema.inline.sizeOf_spec, SchemaBody.mk.sizeOf_spec]
  simp only at hs
  omega

/-- **INDUCTION ALONG THE MEANING**: a wrapper means what it wraps, an array and an object are made
of their members, and everything else stands for itself. -/
theorem ofSchema_induct {motive : Schema → Prop}
    (ref : ∀ target, motive (.ref target))
    (wraps : ∀ b s, b.Wraps s → motive s → motive (.inline b))
    (array : ∀ b, b.DescribesArray → (∀ s, b.items = some s → motive s) → motive (.inline b))
    (object : ∀ b, b.DescribesObject → (∀ s ∈ Table.values b.properties, motive s) →
      motive (.inline b))
    (primitive : ∀ b p, ofSchema (.inline b) = .primitive p → motive (.inline b))
    (nothing : ∀ b, ofSchema (.inline b) = .unresolved → motive (.inline b)) :
    ∀ s : Schema, motive s
  | .ref target => ref target
  | .inline b => by
      -- a member is smaller than the body, and so is what it wraps
      have hmember : ∀ s ∈ b.members, motive s := fun s _ =>
        ofSchema_induct ref wraps array object primitive nothing s
      rcases ofSchema_reading b with ⟨s, hs⟩ | harray | hobject | ⟨p, hp⟩ | hnone
      · have hmem : s ∈ b.allOf := by
          rw [hs.2.2]
          exact List.mem_singleton.mpr rfl
        exact wraps b s hs (ofSchema_induct ref wraps array object primitive nothing s)
      · refine array b harray fun s hs => hmember s (List.mem_append_right _ ?_)
        exact Option.mem_toList.mpr hs
      · exact object b hobject fun s hs => hmember s (List.mem_append_left _ hs)
      · exact primitive b p hp
      · exact nothing b hnone
termination_by s => sizeOf s
decreasing_by
  · exact Document.sizeOf_lt_of_mem_members ‹_›
  · exact sizeOf_lt_of_mem_allOf hmem

/-- No body describes both an array and an object. -/
theorem not_describesObject (harray : b.DescribesArray) : ¬ b.DescribesObject := by
  intro hobject
  have hboth := (ofSchema_of_array harray).symm.trans (ofSchema_of_object hobject)
  rcases objectOf_reading (b.map ofSchema) with h | h
  · rw [h] at hboth
    cases hboth
  · rw [h] at hboth
    cases hboth

end ValueType

/-! ## §4. Other members. -/

/-- The type of the body shows the member: as the items of an array, or as a property of an object. -/
def Document.SchemaBody.Shows {σ : Type} (b : SchemaBody σ) (s : σ) : Prop :=
  b.DescribesArray ∧ b.items = some s ∨ b.DescribesObject ∧ s ∈ Table.values b.properties

namespace ValueType

theorem shows_of_array {b : SchemaBody Schema} (h : b.DescribesArray) {s : Schema} :
    b.Shows s ↔ b.items = some s := by
  constructor
  · rintro (⟨-, hitems⟩ | ⟨hobject, -⟩)
    · exact hitems
    · exact absurd hobject (not_describesObject h)
  · exact fun hitems => .inl ⟨h, hitems⟩

theorem shows_of_object {b : SchemaBody Schema} (h : b.DescribesObject) {s : Schema} :
    b.Shows s ↔ s ∈ Table.values b.properties := by
  constructor
  · rintro (⟨harray, -⟩ | ⟨-, hproperty⟩)
    · exact absurd h (not_describesObject harray)
    · exact hproperty
  · exact fun hproperty => .inr ⟨h, hproperty⟩

/-- An object with properties means these. -/
theorem objectOf_of_properties {b : SchemaBody ValueType} (h : b.properties ≠ []) :
    objectOf b = .object b.properties := by
  unfold objectOf
  split
  · rename_i hproperties _
    exact absurd hproperties h
  · rfl

theorem degradeAll_eq (ps : List (String × ValueType)) :
    degradeAll ps = Table.mapValues degrade ps := by
  induction ps with
  | nil => rfl
  | cons e rest ih =>
    obtain ⟨k, t⟩ := e
    rw [degradeAll, ih]
    rfl

/-- Two types are equal, or both are arrays, or both are objects. -/
inductive SameTop : ValueType → ValueType → Prop
  | refl (t : ValueType) : SameTop t t
  | array (t u : ValueType) : SameTop (.array t) (.array u)
  | object (ps qs : List (String × ValueType)) : SameTop (.object ps) (.object qs)

section OtherMembers

variable (f : Schema → Schema) (b : SchemaBody Schema)

/-- A body that shows no member means the same with other members. -/
theorem ofSchema_mapMembers_of_no_member (h : ∀ s, ¬ b.Shows s) :
    ofSchema (.inline (b.mapMembers f)) = ofSchema (.inline b) := by
  by_cases harray : b.DescribesArray
  · -- an array that shows nothing has no items, and then none after the change
    have hitems : b.items = none :=
      Option.eq_none_iff_forall_not_mem.mpr fun s hs => h s (.inl ⟨harray, hs⟩)
    have hitems' : (b.mapMembers f).items = none := by
      show b.items.map f = none
      rw [hitems]
      rfl
    rw [ofSchema_of_array ((b.describesArray_mapMembers f).mpr harray), ofSchema_of_array harray,
      hitems, hitems']
  · by_cases hobject : b.DescribesObject
    · -- an object that shows nothing has no properties, and may still be nothing at all
      have hproperties : b.properties = [] := by
        refine List.eq_nil_iff_forall_not_mem.mpr fun e he => h e.2 (.inr ⟨hobject, ?_⟩)
        exact List.mem_map_of_mem he
      rw [ofSchema_of_object ((b.describesObject_mapMembers f).mpr hobject),
        ofSchema_of_object hobject]
      simp [objectOf, SchemaBody.map, SchemaBody.mapMembers, hproperties, Table.mapValues]
    · -- to any other body its members do not matter
      rw [ofSchema_inline, ofSchema_inline]
      refine ofBody_members (b := b.map ofSchema) ?_ ?_ (fun hp => ?_) fun hi => ?_
      · exact mt (b.describesArray_map ofSchema).mp harray
      · exact mt (b.describesObject_map ofSchema).mp hobject
      · simp_all [SchemaBody.map, SchemaBody.mapMembers, Table.mapValues]
      · simp_all [SchemaBody.map, SchemaBody.mapMembers]

/-- **STEP**: a body shows no member and means the same with other members, or it is an array and
shows its items, or an object and shows its properties. -/
theorem ofSchema_mapMembers_cases :
    ((∀ s, ¬ b.Shows s) ∧ ofSchema (.inline (b.mapMembers f)) = ofSchema (.inline b)) ∨
    (∃ s, (∀ s', b.Shows s' ↔ s' = s) ∧ ofSchema (.inline b) = .array (ofSchema s) ∧
      ofSchema (.inline (b.mapMembers f)) = .array (ofSchema (f s))) ∨
    ((∀ s, b.Shows s ↔ s ∈ Table.values b.properties) ∧
      ofSchema (.inline b) = .object (Table.mapValues ofSchema b.properties) ∧
      ofSchema (.inline (b.mapMembers f))
        = .object (Table.mapValues ofSchema (Table.mapValues f b.properties))) := by
  by_cases hnone : ∀ s, ¬ b.Shows s
  · exact .inl ⟨hnone, ofSchema_mapMembers_of_no_member f b hnone⟩
  · obtain ⟨s, hs⟩ := not_forall_not.mp hnone
    rcases hs with ⟨harray, hitems⟩ | ⟨hobject, hproperty⟩
    · refine .inr (.inl ⟨s, fun s' => ?_, ?_, ?_⟩)
      · rw [shows_of_array harray, hitems, Option.some.injEq, eq_comm]
      · rw [ofSchema_of_array harray, hitems]
        rfl
      · have hitems' : (b.mapMembers f).items = some (f s) := by
          show b.items.map f = some (f s)
          rw [hitems]
          rfl
        rw [ofSchema_of_array ((b.describesArray_mapMembers f).mpr harray), hitems']
        rfl
    · have hproperties : b.properties ≠ [] := by
        rintro hnil
        rw [hnil] at hproperty
        cases hproperty
      refine .inr (.inr ⟨fun s => shows_of_object hobject, ?_, ?_⟩)
      · rw [ofSchema_of_object hobject]
        exact objectOf_of_properties (mt (b.properties_map_eq_nil ofSchema).mp hproperties)
      · rw [ofSchema_of_object ((b.describesObject_mapMembers f).mpr hobject)]
        refine objectOf_of_properties (mt ((b.mapMembers f).properties_map_eq_nil ofSchema).mp ?_)
        intro hnil
        exact hproperties (List.map_eq_nil_iff.mp hnil)

/-- Other members do not change the top of what a schema means. -/
theorem sameTop_mapMembers :
    SameTop (ofSchema (.inline (b.mapMembers f))) (ofSchema (.inline b)) := by
  rcases ofSchema_mapMembers_cases f b with ⟨-, heq⟩ | ⟨s, -, ht, ht'⟩ | ⟨-, ht, ht'⟩
  · rw [heq]
    exact .refl _
  · rw [ht, ht']
    exact .array _ _
  · rw [ht, ht']
    exact .object _ _

/-- Up to unknown parts a schema means the same with other members when every member that it shows
does. -/
theorem degrade_mapMembers_iff :
    (ofSchema (.inline (b.mapMembers f))).degrade = (ofSchema (.inline b)).degrade ↔
      ∀ s, b.Shows s → (ofSchema (f s)).degrade = (ofSchema s).degrade := by
  rcases ofSchema_mapMembers_cases f b with ⟨hnone, heq⟩ | ⟨s, hs, ht, ht'⟩ | ⟨hs, ht, ht'⟩
  · rw [heq]
    exact iff_of_true rfl fun s hs => absurd hs (hnone s)
  · rw [ht, ht']
    simp only [hs, forall_eq, degrade, ValueType.array.injEq]
  · rw [ht, ht']
    simp only [hs, degrade, ValueType.object.injEq, degradeAll_eq, Table.mapValues_mapValues]
    exact Table.mapValues_eq_iff

end OtherMembers

end ValueType

end ApiMethods
