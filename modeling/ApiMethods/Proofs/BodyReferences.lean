/-
  ApiMethods.Proofs.BodyReferences
  ────────────────────────────────
  **WHERE THE LOOK-UP OF MODELS AND THE TYPE OF A BODY PART.**

  A body schema is read twice for its reference: by its type, and by the look-up that asks the
  source of models.  Both see the reference of a schema that is one, and that of the items of an
  array.  They part in six ways, and in no other (`Misread`):

      wrapped         the type sees through `allOf` with one schema, the look-up does not,
      wrapped list    even where what is wrapped is an array of a reference,
      wrapped items   or where the items of an array are wrapped,
      nullable        `type: [array, null]` is an array for the type alone,
      composed        the look-up takes the items of a body that is composed of other schemas,
      object          and those of a body without a type that describes an object.

  In the first four the source of models is not asked about a type that is a reference or an array
  of references; in the last two it is asked although the type is another.
-/
import ApiMethods.Models
import ApiMethods.Proofs.KnownTypes
import ApiMethods.Reply.Classify

namespace ApiMethods

open Document (Schema SchemaBody)

/-! ## §1. By the type. -/

/-- The schema is a reference, behind any number of wrappers. -/
inductive StandsFor (target : String) : Schema → Prop
  | ref : StandsFor target (.ref target)
  | wrapped {b : SchemaBody Schema} {s : Schema} : b.Wraps s → StandsFor target s →
      StandsFor target (.inline b)

/-- The schema describes an array of a reference, behind any number of wrappers. -/
inductive ListsOf (target : String) : Schema → Prop
  | items {b : SchemaBody Schema} {s : Schema} : b.DescribesArray → b.items = some s →
      StandsFor target s → ListsOf target (.inline b)
  | wrapped {b : SchemaBody Schema} {s : Schema} : b.Wraps s → ListsOf target s →
      ListsOf target (.inline b)

namespace ValueType

theorem ofSchema_of_standsFor {target : String} {s : Schema} (h : StandsFor target s) :
    ofSchema s = .ref target := by
  induction h with
  | ref => rfl
  | wrapped hwraps _ ih => rw [ofSchema_of_wraps hwraps, ih]

theorem ofSchema_of_listsOf {target : String} {s : Schema} (h : ListsOf target s) :
    ofSchema s = .array (.ref target) := by
  induction h with
  | items harray hitems hstands =>
    rw [ofSchema_of_array harray, hitems, Option.map_some, ofSchema_of_standsFor hstands]
    rfl
  | wrapped hwraps _ ih => rw [ofSchema_of_wraps hwraps, ih]

/-- An object is read as one, or as nothing. -/
theorem ofSchema_object_ne {b : SchemaBody Schema} (h : b.DescribesObject) :
    (∀ target, ofSchema (.inline b) ≠ .ref target) ∧ ∀ t, ofSchema (.inline b) ≠ .array t := by
  rw [ofSchema_of_object h]
  rcases objectOf_reading (b.map ofSchema) with hread | hread
  · rw [hread]
    exact ⟨nofun, nofun⟩
  · rw [hread]
    exact ⟨nofun, nofun⟩

/-- **WHICH TYPES ARE REFERENCES.** -/
theorem ofSchema_eq_ref_iff {target : String} (s : Schema) :
    ofSchema s = .ref target ↔ StandsFor target s := by
  refine ⟨fun h => ?_, ofSchema_of_standsFor⟩
  induction s using ofSchema_induct with
  | ref other =>
    cases h
    exact .ref
  | wraps b s hs ih =>
    -- only a wrapper has the type of a reference
    rw [ofSchema_of_wraps hs] at h
    exact .wrapped hs (ih h)
  | array b harray _ =>
    rw [ofSchema_of_array harray] at h
    cases h
  | object b hobject _ => exact absurd h ((ofSchema_object_ne hobject).1 target)
  | primitive b p hp =>
    rw [hp] at h
    cases h
  | nothing b hnone =>
    rw [hnone] at h
    cases h

/-- **WHICH TYPES ARE ARRAYS OF REFERENCES.** -/
theorem ofSchema_eq_list_iff {target : String} (s : Schema) :
    ofSchema s = .array (.ref target) ↔ ListsOf target s := by
  refine ⟨fun h => ?_, ofSchema_of_listsOf⟩
  induction s using ofSchema_induct with
  | ref other => cases h
  | wraps b s hs ih =>
    rw [ofSchema_of_wraps hs] at h
    exact .wrapped hs (ih h)
  | array b harray _ =>
    rw [ofSchema_of_array harray] at h
    cases hitems : b.items with
    | none =>
      rw [hitems] at h
      cases h
    | some s =>
      rw [hitems] at h
      have hs : ofSchema s = .ref target := ValueType.array.inj h
      exact .items harray hitems ((ofSchema_eq_ref_iff s).mp hs)
  | object b hobject _ => exact absurd h ((ofSchema_object_ne hobject).2 _)
  | primitive b p hp =>
    rw [hp] at h
    cases h
  | nothing b hnone =>
    rw [hnone] at h
    cases h

end ValueType

/-! ## §2. By the look-up. -/

/-- The look-up takes the reference of the items. -/
def Document.SchemaBody.Offers (b : SchemaBody Schema) (target : String) : Prop :=
  (b.type = some (.one .array) ∨ b.type = none) ∧ b.items = some (.ref target)

namespace Models

/-- Of a body the look-up takes the items, if anything. -/
theorem reference?_inline_iff {b : SchemaBody Schema} {x : String × Bool} :
    reference? (.inline b) = some x ↔ ∃ target, b.Offers target ∧ x = (target, true) := by
  unfold Document.SchemaBody.Offers reference?
  dsimp only
  constructor
  · intro h
    split at h
    · rename_i target htype hitems
      cases h
      exact ⟨target, ⟨.inl htype, hitems⟩, rfl⟩
    · rename_i target htype hitems
      cases h
      exact ⟨target, ⟨.inr htype, hitems⟩, rfl⟩
    · cases h
  · rintro ⟨target, ⟨htype | htype, hitems⟩, rfl⟩
    · simp only [htype, hitems]
    · simp only [htype, hitems]

theorem reference?_eq_single_iff {s : Schema} {target : String} :
    reference? s = some (target, false) ↔ s = .ref target := by
  cases s with
  | ref other => simp [reference?]
  | inline b =>
    refine iff_of_false (fun h => ?_) nofun
    obtain ⟨_, -, heq⟩ := reference?_inline_iff.mp h
    cases heq

theorem reference?_eq_list_iff {b : SchemaBody Schema} {target : String} :
    reference? (.inline b) = some (target, true) ↔ b.Offers target := by
  rw [reference?_inline_iff]
  constructor
  · rintro ⟨_, hoffers, heq⟩
    cases heq
    exact hoffers
  · exact fun hoffers => ⟨target, hoffers, rfl⟩

end Models

/-! ## §3. Where they part. -/

/-- The look-up and the type of a schema do not see the same reference. -/
inductive Misread : Schema → Prop
  /-- A reference is wrapped. -/
  | wrapped {b : SchemaBody Schema} {s : Schema} {target : String} : b.Wraps s →
      StandsFor target s → Misread (.inline b)
  /-- An array of a reference is wrapped, and the wrapper does not happen to have the same items. -/
  | wrappedList {b : SchemaBody Schema} {s : Schema} {target : String} : b.Wraps s →
      ListsOf target s → ¬ b.Offers target → Misread (.inline b)
  /-- The items of an array are a wrapped reference. -/
  | wrappedItems {b b' : SchemaBody Schema} {target : String} : b.DescribesArray →
      b.items = some (.inline b') → StandsFor target (.inline b') → Misread (.inline b)
  /-- An array of a reference may be `null`. -/
  | nullable {b : SchemaBody Schema} {ts : List Document.TypeName} {target : String} :
      b.DescribesArray → b.type = some (.several ts) → b.items = some (.ref target) →
      Misread (.inline b)
  /-- A composed body has such items, and does not happen to wrap an array of the same. -/
  | composed {b : SchemaBody Schema} {target : String} : b.Offers target → ¬ b.Plain →
      (∀ s, b.Wraps s → ¬ ListsOf target s) → Misread (.inline b)
  /-- A body that describes an object has such items. -/
  | object {b : SchemaBody Schema} {target : String} : b.Offers target → b.DescribesObject →
      Misread (.inline b)

/-- The look-up and the type see the same reference, and both take it for that of an array or both do
    not. -/
def ReadAlike (s : Schema) : Prop :=
  (∀ target, Models.reference? s = some (target, false) ↔ ValueType.ofSchema s = .ref target) ∧
  ∀ target, Models.reference? s = some (target, true) ↔
    ValueType.ofSchema s = .array (.ref target)

/-- What is misread is not read alike. -/
theorem not_readAlike_of_misread {s : Schema} (h : Misread s) : ¬ ReadAlike s := by
  rintro ⟨hsingle, hlist⟩
  simp only [ValueType.ofSchema_eq_ref_iff, ValueType.ofSchema_eq_list_iff] at hsingle hlist
  cases h with
  | wrapped hwraps hstands =>
    have hoffered := (hsingle _).mpr (.wrapped hwraps hstands)
    cases Models.reference?_eq_single_iff.mp hoffered
  | wrappedList hwraps hlists hnot =>
    have hoffered := (hlist _).mpr (.wrapped hwraps hlists)
    exact hnot (Models.reference?_eq_list_iff.mp hoffered)
  | wrappedItems harray hitems hstands =>
    have hoffered := (hlist _).mpr (.items harray hitems hstands)
    have hdirect := (Models.reference?_eq_list_iff.mp hoffered).2
    rw [hitems] at hdirect
    cases hdirect
  | nullable harray htype hitems =>
    have hoffered := (hlist _).mpr (.items harray hitems .ref)
    rcases (Models.reference?_eq_list_iff.mp hoffered).1 with h | h
    · rw [htype] at h
      cases h
    · rw [htype] at h
      cases h
  | composed hoffers hcomposed hwraps =>
    cases (hlist _).mp (Models.reference?_eq_list_iff.mpr hoffers) with
    | items harray _ _ => exact hcomposed harray.1
    | wrapped hs hlists => exact hwraps _ hs hlists
  | object hoffers hobject =>
    have hlists := (hlist _).mp (Models.reference?_eq_list_iff.mpr hoffers)
    exact (ValueType.ofSchema_object_ne hobject).2 _ (ValueType.ofSchema_of_listsOf hlists)

/-- A plain body that the look-up takes the items of describes an array, whether it says so or not,
    unless it describes an object. -/
theorem describesArray_of_offers {b : SchemaBody Schema} {target : String} (h : b.Offers target)
    (hplain : b.Plain) (hobject : ¬ b.DescribesObject) : b.DescribesArray := by
  obtain ⟨htype | htype, hitems⟩ := h
  · exact ⟨hplain, .inl (.inl htype)⟩
  · have hnothing : b.properties = [] ∧ b.additional = none := by
      by_contra hsome
      exact hobject ⟨hplain, .inr ⟨htype, not_and_or.mp hsome⟩⟩
    exact ⟨hplain, .inr ⟨htype, hnothing.1, hnothing.2, by simp [hitems]⟩⟩

section NotMisread

variable {b : SchemaBody Schema} {target : String} (hnot : ¬ Misread (.inline b))
include hnot

/-- A body that is not misread stands for no reference. -/
theorem not_standsFor_of_not_misread : ¬ StandsFor target (.inline b) := by
  intro hstands
  cases hstands with
  | wrapped hwraps hs => exact hnot (.wrapped hwraps hs)

/-- What the look-up takes from a body that is not misread, its type has as well. -/
theorem listsOf_of_offers (hoffers : b.Offers target) : ListsOf target (.inline b) := by
  by_contra hlists
  by_cases hplain : b.Plain
  · by_cases hobject : b.DescribesObject
    · exact hnot (.object hoffers hobject)
    · exact hlists (.items (describesArray_of_offers hoffers hplain hobject) hoffers.2 .ref)
  · exact hnot (.composed hoffers hplain fun s hs hl => hlists (.wrapped hs hl))

/-- What the type of such a body has, the look-up takes from it. -/
theorem offers_of_listsOf (hlists : ListsOf target (.inline b)) : b.Offers target := by
  by_contra hoffers
  cases hlists with
  | wrapped hwraps hs => exact hnot (.wrappedList hwraps hs hoffers)
  | items harray hitems hstands =>
    cases hstands with
    | wrapped hwraps hs => exact hnot (.wrappedItems harray hitems (.wrapped hwraps hs))
    | ref =>
      rcases harray.2 with (htype | ⟨ts, htype, -⟩) | ⟨htype, -⟩
      · exact hoffers ⟨.inl htype, hitems⟩
      · exact hnot (.nullable harray htype hitems)
      · exact hoffers ⟨.inr htype, hitems⟩

end NotMisread

/-- **THERE IS NO OTHER WAY TO PART.** -/
theorem readAlike_iff (s : Schema) : ReadAlike s ↔ ¬ Misread s := by
  refine ⟨fun halike hmisread => not_readAlike_of_misread hmisread halike, fun hnot => ?_⟩
  unfold ReadAlike
  simp only [ValueType.ofSchema_eq_ref_iff, ValueType.ofSchema_eq_list_iff]
  cases s with
  | ref other =>
    constructor
    · intro target
      rw [Models.reference?_eq_single_iff]
      constructor
      · intro h
        cases h
        exact .ref
      · intro h
        cases h
        rfl
    · intro target
      refine iff_of_false ?_ nofun
      simp [Models.reference?]
  | inline b =>
    constructor
    · intro target
      rw [Models.reference?_eq_single_iff]
      exact iff_of_false nofun (not_standsFor_of_not_misread hnot)
    · intro target
      rw [Models.reference?_eq_list_iff]
      exact ⟨listsOf_of_offers hnot, offers_of_listsOf hnot⟩

/-! ## §4. What the source of models is asked. -/

/-- The reference in a type, and whether the type is that of lists of it. -/
def ValueType.reference? : ValueType → Option (String × Bool)
  | .ref target => some (target, false)
  | .array (.ref target) => some (target, true)
  | _ => none

theorem ValueType.reference?_eq_single_iff {t : ValueType} {target : String} :
    t.reference? = some (target, false) ↔ t = .ref target := by
  unfold ValueType.reference?
  split <;> simp_all

theorem ValueType.reference?_eq_list_iff {t : ValueType} {target : String} :
    t.reference? = some (target, true) ↔ t = .array (.ref target) := by
  unfold ValueType.reference?
  split <;> simp_all

theorem readAlike_iff_reference?_eq (s : Schema) :
    ReadAlike s ↔ Models.reference? s = (ValueType.ofSchema s).reference? := by
  unfold ReadAlike
  simp only [← ValueType.reference?_eq_single_iff, ← ValueType.reference?_eq_list_iff]
  constructor
  · rintro ⟨hsingle, hlist⟩
    refine Option.ext fun x => ?_
    obtain ⟨target, isList⟩ := x
    cases isList with
    | false => exact hsingle target
    | true => exact hlist target
  · intro h
    rw [h]
    exact ⟨fun _ => Iff.rfl, fun _ => Iff.rfl⟩

namespace Models

/-- The model that a type means: that of its reference. -/
def modelOf? (m : Models) (t : ValueType) : Option Found := do
  let (target, isList) ← t.reference?
  let type ← m.typeOf? target
  return ⟨type, isList⟩

/-- A source of models that takes every reference for the name of its type. -/
def echo : Models := ⟨some, fun _ => .none, fun _ => false⟩

/-- Asked about every reference, a source of models tells references apart. -/
theorem reference?_eq_of_find?_echo {s : Schema} {t : ValueType}
    (h : echo.find? s = echo.modelOf? t) : reference? s = t.reference? := by
  have hfind : (reference? s).map (fun x => Found.mk x.1 x.2) = echo.find? s := by
    unfold find?
    cases reference? s <;> rfl
  have hmodel : t.reference?.map (fun x => Found.mk x.1 x.2) = echo.modelOf? t := by
    unfold modelOf?
    cases t.reference? <;> rfl
  have hinjective : Function.Injective fun x : String × Bool => Found.mk x.1 x.2 := by
    rintro ⟨a, i⟩ ⟨b, j⟩ heq
    cases heq
    rfl
  refine Option.map_injective hinjective ?_
  exact hfind.trans (h.trans hmodel.symm)

/-- The model of an answer is the one that is found. -/
theorem model_ofSchema (m : Models) (s : Schema) :
    (Reply.ofSchema m s {}).model = (m.find? s).map (·.type) := by
  unfold Reply.ofSchema find?
  cases reference? s with
  | none => rfl
  | some x =>
    obtain ⟨target, isList⟩ := x
    show m.typeOf? target =
      ((m.typeOf? target).bind fun type => some (Found.mk type isList)).map (·.type)
    cases m.typeOf? target <;> rfl

/-- **THE LOOK-UP FOLLOWS THE TYPE EXACTLY WHERE A SCHEMA IS NOT MISREAD**: there both see the same
reference, and every source of models is asked about the type of a body, of a request or of an
answer, if this is a reference or an array of references, and about no other. -/
theorem look_up_follows_type (s : Schema) :
    (ReadAlike s ↔ ¬ Misread s) ∧
    ((∀ m : Models, m.find? s = m.modelOf? (ValueType.ofSchema s)) ↔ ¬ Misread s) ∧
    (¬ Misread s → ∀ m : Models,
      (Reply.ofSchema m s {}).model = (m.modelOf? (ValueType.ofSchema s)).map (·.type)) := by
  have halike := readAlike_iff s
  have hask : ReadAlike s → ∀ m : Models, m.find? s = m.modelOf? (ValueType.ofSchema s) := by
    intro h m
    unfold find? modelOf?
    rw [(readAlike_iff_reference?_eq s).mp h]
  refine ⟨halike, ⟨fun hall => ?_, fun hnot => hask (halike.mpr hnot)⟩, fun hnot m => ?_⟩
  · refine halike.mp ((readAlike_iff_reference?_eq s).mpr ?_)
    exact reference?_eq_of_find?_echo (hall echo)
  · rw [model_ofSchema, hask (halike.mpr hnot) m]

/-- An array of references that may be `null`. -/
def nullableList : Schema :=
  .inline {
    type := some (.several [.array, .null])
    items := some (.ref "#/components/schemas/Pet") }

/-- **A BODY MAY BE READ IN TWO WAYS**: this one is a list of pets by its type, and the source of
models is not asked about pets. -/
theorem exists_not_readAlike : ¬ ∀ s : Schema, ReadAlike s := by
  intro hall
  obtain ⟨-, hlist⟩ := hall nullableList
  have hoffered : reference? nullableList = some ("#/components/schemas/Pet", true) :=
    (hlist "#/components/schemas/Pet").mpr rfl
  cases hoffered

end Models

end ApiMethods
