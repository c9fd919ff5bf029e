/-
  ApiMethods.Proofs.SettledTypes
  ──────────────────────────────
  **WHAT A PARAMETER IS SETTLED AS.**

  A parameter that makes an argument has a schema, and what the schema means is simple or has parts:

      place        declared type         type of the argument
      path         simple                the declared one
      elsewhere    simple                the declared one
      elsewhere    an array or object    the declared one, degraded

  In a path an array or object is refused, even when every part of it is known; elsewhere no unknown
  part is a reason to refuse it, at any depth.  What degrading does to it is said path by path
  (`Degrades`): only the parts of which nothing is known are replaced.  No other type is like that
  (`Degrades.eq_degrade`).

  The encoding is planned for this type, and for a style that is settled on its own (`Styled`):

      declared style    collectionFormat     style of the argument
      a known name      any                  the declared one
      another name      any                  that of the place
      none              a known name         what this means
      none              another, or none     that of the place
-/
import ApiMethods.Proofs.SkipRules

namespace ApiMethods

open Document (Parameter Schema)

/-! ## §1. What degrading does. -/

namespace ValueType

theorem degrade_eq_array_iff {t u : ValueType} :
    t.degrade = .array u ↔ ∃ v, t = .array v ∧ v.degrade = u := by
  cases t with
  | array v => simp [degrade]
  | primitive _ | object _ | ref _ | model _ | any | unresolved =>
    constructor
    · intro h
      cases h
    · rintro ⟨_, h, _⟩
      cases h

theorem degrade_eq_object_iff {t : ValueType} {qs : List (String × ValueType)} :
    t.degrade = .object qs ↔ ∃ ps, t = .object ps ∧ Table.mapValues degrade ps = qs := by
  cases t with
  | object ps => simp [degrade, degradeAll_eq]
  | primitive _ | array _ | ref _ | model _ | any | unresolved =>
    constructor
    · intro h
      cases h
    · rintro ⟨_, h, _⟩
      cases h

theorem isUnknown_iff {t : ValueType} :
    t.isUnknown = true ↔ t = .unresolved ∨ ∃ target, t = .ref target := by
  cases t with
  | unresolved => exact iff_of_true rfl (.inl rfl)
  | ref target => exact iff_of_true rfl (.inr ⟨target, rfl⟩)
  | primitive _ | array _ | object _ | model _ | any =>
    exact iff_of_false nofun (by rintro (h | ⟨_, h⟩) <;> cases h)

/-- A type is another one in which nothing but the unknown parts has been replaced. -/
structure Degrades (t u : ValueType) : Prop where
  /-- The same paths lead to parts: ... -/
  isSome_at? : ∀ path, (u.at? path).isSome = (t.at? path).isSome
  /-- ... to arrays where there were arrays, ... -/
  array_iff : ∀ path, (∃ v, u.at? path = some (.array v)) ↔ ∃ v, t.at? path = some (.array v)
  /-- ... and to objects where there were objects, with the same keys in the same order. -/
  object_iff : ∀ path keys, (∃ qs, u.at? path = some (.object qs) ∧ Table.keys qs = keys) ↔
    ∃ ps, t.at? path = some (.object ps) ∧ Table.keys ps = keys
  /-- A known part stays as it is. -/
  of_known : ∀ path v, t.at? path = some v → v.Known → u.at? path = some v
  /-- Any value stands exactly where a part was unresolved or a reference. -/
  any_iff : ∀ path, u.at? path = some .any ↔
    ∃ v, t.at? path = some v ∧ (v = .unresolved ∨ ∃ target, v = .ref target)
  /-- Nothing unknown is left, ... -/
  known : u.Known
  /-- ... no model has come in, ... -/
  modelFree : u.ModelFree
  /-- ... and nothing is left to degrade. -/
  degrade_eq : u.degrade = u

/-- **DEGRADING REPLACES THE UNKNOWN PARTS AND NOTHING ELSE.** -/
theorem degrades_degrade {t : ValueType} (hany : ¬ Part t .any) (hmodel : t.ModelFree) :
    Degrades t t.degrade where
  isSome_at? := by
    intro path
    rw [at?_degrade, Option.isSome_map]
  array_iff := by
    intro path
    simp only [at?_degrade, Option.map_eq_some_iff, degrade_eq_array_iff]
    constructor
    · rintro ⟨_, _, hv, w, rfl, _⟩
      exact ⟨w, hv⟩
    · rintro ⟨w, hw⟩
      exact ⟨w.degrade, _, hw, w, rfl, rfl⟩
  object_iff := by
    intro path keys
    simp only [at?_degrade, Option.map_eq_some_iff, degrade_eq_object_iff]
    constructor
    · rintro ⟨_, ⟨_, hv, ps, rfl, rfl⟩, rfl⟩
      exact ⟨ps, hv, (Table.keys_mapValues _ _).symm⟩
    · rintro ⟨ps, hps, rfl⟩
      exact ⟨_, ⟨_, hps, ps, rfl, rfl⟩, Table.keys_mapValues _ _⟩
  of_known := by
    intro path v hv hknown
    rw [at?_degrade, hv, Option.map_some, degrade_of_known v hknown]
  any_iff := by
    intro path
    simp only [at?_degrade, Option.map_eq_some_iff, ← isUnknown_iff]
    refine exists_congr fun v => and_congr_right fun hv => degrade_eq_any_iff ?_
    rintro rfl
    exact hany (part_iff.mpr ⟨path, hv⟩)
  known := known_degrade t
  modelFree := modelFree_degrade hmodel
  degrade_eq := degrade_degrade t

/-- What is said of two types is said of what stands a step below them. -/
theorem Degrades.child {t u t' u' : ValueType} (h : Degrades t u) (step : Step)
    (ht : t.child? step = some t') (hu : u.child? step = some u') : Degrades t' u' := by
  have hpath : ∀ path, t.at? (step :: path) = t'.at? path ∧ u.at? (step :: path) = u'.at? path := by
    intro path
    rw [at?_cons, at?_cons, ht, hu]
    exact ⟨rfl, rfl⟩
  have hpart : Part u u' := part_iff.mpr ⟨[step], (hpath []).2⟩
  have hknown : u'.Known := fun v hv => h.known v (hpart.trans hv)
  exact {
    isSome_at? := fun path => by simpa only [hpath] using h.isSome_at? (step :: path)
    array_iff := fun path => by simpa only [hpath] using h.array_iff (step :: path)
    object_iff := fun path keys => by simpa only [hpath] using h.object_iff (step :: path) keys
    of_known := fun path v => by simpa only [hpath] using h.of_known (step :: path) v
    any_iff := fun path => by simpa only [hpath] using h.any_iff (step :: path)
    known := hknown
    modelFree := fun name hv => h.modelFree name (hpart.trans hv)
    degrade_eq := degrade_of_known u' hknown }

theorem sizeOf_lt_of_mem_properties {ps : List (String × ValueType)} {e : String × ValueType}
    (h : e ∈ ps) : sizeOf e.2 < sizeOf (ValueType.object ps) := by
  have hlist : sizeOf e < sizeOf ps := List.sizeOf_lt_of_mem h
  obtain ⟨k, t⟩ := e
  rw [Prod.mk.sizeOf_spec] at hlist
  rw [ValueType.object.sizeOf_spec]
  show sizeOf t < _
  omega

/-- **NO OTHER TYPE DEGRADES A TYPE.** -/
theorem Degrades.eq_degrade : ∀ {t u : ValueType}, Degrades t u → u = t.degrade
  | .primitive p, _, h => Option.some.inj (h.of_known [] _ rfl (known_primitive p))
  | .model name, _, h => Option.some.inj (h.of_known [] _ rfl (known_model name))
  | .any, _, h => Option.some.inj (h.of_known [] _ rfl known_any)
  | .unresolved, _, h => Option.some.inj ((h.any_iff []).mpr ⟨_, rfl, .inl rfl⟩)
  | .ref target, _, h => Option.some.inj ((h.any_iff []).mpr ⟨_, rfl, .inr ⟨target, rfl⟩⟩)
  | .array t, u, h => by
      obtain ⟨v, hv⟩ := (h.array_iff []).mpr ⟨t, rfl⟩
      cases hv
      exact congrArg ValueType.array (Degrades.eq_degrade (h.child .items rfl rfl))
  | .object ps, u, h => by
      obtain ⟨qs, hqs, hkeys⟩ := (h.object_iff [] _).mpr ⟨ps, rfl, rfl⟩
      cases hqs
      show _ = ValueType.object (degradeAll ps)
      rw [degradeAll_eq]
      -- the properties agree index by index: in the keys by assumption, in the types by induction
      refine congrArg ValueType.object (List.ext_getElem? fun i => ?_)
      have hkey : qs[i]?.map (·.1) = ps[i]?.map (·.1) := by
        simpa only [Table.keys, List.getElem?_map] using congrArg (·[i]?) hkeys
      rw [Table.mapValues, List.getElem?_map]
      cases hp : ps[i]? with
      | none =>
        rw [hp] at hkey
        exact Option.map_eq_none_iff.mp hkey
      | some e =>
        rw [hp, Option.map_some] at hkey
        obtain ⟨e', he', hkeys'⟩ := Option.map_eq_some_iff.mp hkey
        have hchild : Degrades e.2 e'.2 := by
          refine h.child (.property i) ?_ ?_
          · rw [child?_property, hp, Option.map_some]
          · rw [child?_property, he', Option.map_some]
        rw [he', Option.map_some, Option.some.injEq]
        exact Prod.ext hkeys' hchild.eq_degrade
termination_by t => sizeOf t
decreasing_by
  · decreasing_tactic
  · exact sizeOf_lt_of_mem_properties (List.mem_of_getElem? hp)

theorem degrades_ofSchema (s : Schema) : Degrades (ofSchema s) (ofSchema s).degrade :=
  degrades_degrade (fun h => (ne_of_part_ofSchema h).1 rfl) (modelFree_ofSchema s)

end ValueType

/-! ## §2. Styles. -/

namespace Argument

/-- The style of a parameter in a place. -/
inductive Styled (p : Parameter) (location : Location) : Style → Prop
  | declared {style : Style} : p.style = some style.text → Styled p location style
  | unknown {name : String} : p.style = some name → (∀ style : Style, name ≠ style.text) →
      Styled p location (.ofLocation location)
  | older {format : String} {style : Style} {explode : Bool} : p.style = none →
      p.collectionFormat = some format → ofCollectionFormat? format = some (style, explode) →
      Styled p location style
  | usual : p.style = none → (∀ format, p.collectionFormat = some format →
      ofCollectionFormat? format = none) → Styled p location (.ofLocation location)

theorem styleOf_of_some {p : Parameter} {name : String} (h : p.style = some name)
    (location : Location) :
    styleOf p location = (Style.ofText? name).getD (.ofLocation location) := by
  unfold styleOf
  rw [h]

theorem styleOf_of_none {p : Parameter} (h : p.style = none) (location : Location) :
    styleOf p location
      = ((p.collectionFormat.bind ofCollectionFormat?).map (·.1)).getD (.ofLocation location) := by
  unfold styleOf
  rw [h]
  rfl

/-- **A PARAMETER HAS ONE STYLE**, and it is the one that the compiler settles. -/
theorem styled_iff {p : Parameter} {location : Location} {style : Style} :
    Styled p location style ↔ styleOf p location = style := by
  constructor
  · intro h
    cases h with
    | declared hstyle =>
      rw [styleOf_of_some hstyle, Style.ofText?_text, Option.getD_some]
    | @unknown name hstyle hother =>
      have hread : Style.ofText? name = none := by
        rw [Option.eq_none_iff_forall_ne_some]
        exact fun style h => hother style (Style.ofText?_eq_some_iff.mp h)
      rw [styleOf_of_some hstyle, hread, Option.getD_none]
    | older hstyle hformat hmeans =>
      rw [styleOf_of_none hstyle, hformat, Option.bind_some, hmeans, Option.map_some,
        Option.getD_some]
    | usual hstyle hother =>
      rw [styleOf_of_none hstyle, Option.bind_eq_none_iff.mpr hother, Option.map_none,
        Option.getD_none]
  · rintro rfl
    cases hstyle : p.style with
    | some name =>
      rw [styleOf_of_some hstyle]
      cases hread : Style.ofText? name with
      | some style =>
        rw [Style.ofText?_eq_some_iff] at hread
        exact .declared (hstyle.trans (congrArg some hread))
      | none =>
        refine .unknown hstyle fun style h => ?_
        rw [h, Style.ofText?_text] at hread
        cases hread
    | none =>
      rw [styleOf_of_none hstyle]
      cases hlegacy : p.collectionFormat.bind ofCollectionFormat? with
      | some means =>
        obtain ⟨format, hformat, hmeans⟩ := Option.bind_eq_some_iff.mp hlegacy
        exact .older hstyle hformat hmeans
      | none => exact .usual hstyle (Option.bind_eq_none_iff.mp hlegacy)

/-! ## §3. Arguments. -/

/-- **A PARAMETER MAKES AN ARGUMENT WHEN IT CAN BE TYPED**, and only then. -/
theorem build_eq_ok_iff {p : Parameter} {location : Location} {a : Argument} :
    build p location = .ok a ↔ Typeable location p ∧
      ofTyped p location ((declaredType? p).getD .unresolved).degrade = a := by
  constructor
  · intro h
    obtain ⟨t, ht, rfl⟩ := map_eq_ok h
    obtain ⟨htypeable, rfl⟩ := typeOf_eq_ok_iff.mp ht
    exact ⟨htypeable, rfl⟩
  · rintro ⟨htypeable, rfl⟩
    unfold build
    rw [typeOf_eq_ok_iff.mpr ⟨htypeable, rfl⟩]
    rfl

/-- **THE TYPE OF A PARAMETER IS THE DECLARED ONE, AND ONLY UNKNOWN PARTS ARE DEGRADED.**  A path
parameter is required and its type is simple; elsewhere a simple type stays and an array or object
is degraded, which replaces its unknown parts and nothing else.  The encoding is planned for this
type, and for the style that the parameter says or its place. -/
theorem settled_of_build (p : Parameter) (location : Location) (a : Argument)
    (h : build p location = .ok a) :
    ∃ t, p.effectiveSchema.map ValueType.ofSchema = some t ∧
      (location = .path → a.required = true ∧ t.isPrimitive = true ∧ a.type = t) ∧
      (location ≠ .path →
        t.isPrimitive = true ∧ a.type = t ∨ t.isComposite = true ∧ a.type = t.degrade) ∧
      t.Degrades t.degrade ∧
      a.encoding = .plan location a.style a.explode a.type ∧
      Styled p location a.style := by
  obtain ⟨⟨t, ht, hplace⟩, rfl⟩ := build_eq_ok_iff.mp h
  obtain ⟨s, -, rfl⟩ := Option.map_eq_some_iff.mp ht
  rw [ht, Option.getD_some]
  refine ⟨_, ht, ?path, ?elsewhere, ValueType.degrades_ofSchema s, rfl, styled_iff.mpr rfl⟩
  case path =>
    rintro rfl
    rw [if_pos rfl] at hplace
    exact ⟨rfl, hplace.2, ValueType.degrade_of_isPrimitive hplace.2⟩
  case elsewhere =>
    intro hpath
    rw [if_neg hpath] at hplace
    rcases hplace with hprimitive | hcomposite
    · exact .inl ⟨hprimitive, ValueType.degrade_of_isPrimitive hprimitive⟩
    · exact .inr ⟨hcomposite, rfl⟩

/-- A filter by an object with parts of which nothing is known. -/
def ownerFilter : Parameter where
  name := "filter"
  location := .known .query
  schema := some (.inline { properties := [
    ("owner", .ref "#/components/schemas/Missing"),
    ("sizes", .inline { items := some (.inline { type := some (.one .integer) }) }),
    ("tags", .inline { type := some (.one .array) })] })
  style := some "tabular"

/-- The number of a page, in a path. -/
def pageNumber : Parameter where
  name := "page"
  location := .known .path
  type := some .integer
  collectionFormat := some "ssv"

/-- The filter is an object still: the list of sizes stays, and the rest may be anything.  The number
of the page stays as it is. -/
theorem settled_of_ownerFilter :
    (∃ a, build ownerFilter .query = .ok a ∧
      a.type = .object [
        ("owner", .any), ("sizes", .array (.primitive .integer)), ("tags", .array .any)] ∧
      a.type.Known ∧ a.type.at? [.property 2, .items] = some .any ∧
      a.encoding = .plan .query a.style a.explode a.type ∧
      Styled ownerFilter .query a.style ∧ a.style = .form) ∧
    (∃ a, build pageNumber .path = .ok a ∧ a.required = true ∧
      a.type = .primitive .integer ∧ a.style = .spaceDelimited) := by
  constructor
  · obtain ⟨a, ha⟩ : ∃ a, build ownerFilter .query = .ok a := ⟨_, rfl⟩
    obtain ⟨t, ht, -, htype, hdegrades, hplan, hstyled⟩ := settled_of_build _ _ a ha
    obtain rfl : .object [("owner", .ref "#/components/schemas/Missing"),
        ("sizes", .array (.primitive .integer)), ("tags", .array .unresolved)] = t :=
      Option.some.inj ht
    rcases htype nofun with ⟨hprimitive, -⟩ | ⟨-, htype⟩
    · cases hprimitive
    refine ⟨a, ha, htype, ?_, ?_, hplan, hstyled, (styled_iff.mp hstyled).symm⟩
    · rw [htype]
      exact hdegrades.known
    · rw [htype]
      exact (hdegrades.any_iff _).mpr ⟨.unresolved, rfl, .inl rfl⟩
  · obtain ⟨a, ha⟩ : ∃ a, build pageNumber .path = .ok a := ⟨_, rfl⟩
    obtain ⟨t, ht, htype, -, -, -, hstyled⟩ := settled_of_build _ _ a ha
    obtain rfl : .primitive .integer = t := Option.some.inj ht
    obtain ⟨hrequired, -, htype⟩ := htype rfl
    exact ⟨a, ha, hrequired, htype, (styled_iff.mp hstyled).symm⟩

end Argument

end ApiMethods
