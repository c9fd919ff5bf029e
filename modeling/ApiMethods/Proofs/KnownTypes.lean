/-
  ApiMethods.Proofs.KnownTypes
  ────────────────────────────
  **WHICH TYPES HAVE NO UNKNOWN PART.**

  A part of a type is the type itself or a part of its items or of one of its properties, at
  any depth.  A type is KNOWN when no part of it is unresolved or a reference, and FREE OF MODELS
  when none is a model.  `isResolved` decides whether a type is known.

  A part stands at a PATH, and `degrade` acts at every path alike: where a part stands, the degraded
  part does, and nothing stands anywhere else (`at?_degrade`).  So a degraded type is known, and a
  known type stays as it is.

  §4 says what a schema can mean at all: a reference, a simple type, an array, an object, or
  nothing that is known.  A model, or a value of any type, is never READ from a schema, at any
  depth; these come from elsewhere.
-/
import ApiMethods.Proofs.SchemaMeaning

namespace ApiMethods.ValueType

open Document (Schema SchemaBody)

/-! ## §1. Parts. -/

/-- The parts of a type, the type itself among them. -/
inductive Part : ValueType → ValueType → Prop
  | self (t : ValueType) : Part t t
  | items {t u : ValueType} : Part t u → Part (.array t) u
  | property {ps : List (String × ValueType)} {k : String} {t u : ValueType} :
      (k, t) ∈ ps → Part t u → Part (.object ps) u

/-- A part of a part is a part. -/
theorem Part.trans {t u v : ValueType} (h : Part t u) (hv : Part u v) : Part t v := by
  induction h with
  | self => exact hv
  | items _ ih => exact .items (ih hv)
  | property hmem _ ih => exact .property hmem (ih hv)

/-- No part of the type is unresolved or a reference. -/
def Known (t : ValueType) : Prop := ∀ u, Part t u → u ≠ .unresolved ∧ ∀ target, u ≠ .ref target

theorem not_known_unresolved : ¬ Known .unresolved := fun h => (h _ (.self _)).1 rfl

theorem not_known_ref (target : String) : ¬ Known (.ref target) :=
  fun h => (h _ (.self _)).2 target rfl

theorem known_primitive (p : Primitive) : Known (.primitive p) := by
  rintro u ⟨⟩
  exact ⟨by simp, by simp⟩

theorem known_model (name : String) : Known (.model name) := by
  rintro u ⟨⟩
  exact ⟨by simp, by simp⟩

theorem known_any : Known .any := by
  rintro u ⟨⟩
  exact ⟨by simp, by simp⟩

theorem known_array {t : ValueType} : Known (.array t) ↔ Known t := by
  constructor
  · exact fun h u hu => h u (.items hu)
  · intro h u hu
    cases hu with
    | self => exact ⟨by simp, by simp⟩
    | items hu => exact h u hu

theorem known_object {ps : List (String × ValueType)} :
    Known (.object ps) ↔ ∀ e ∈ ps, Known e.2 := by
  constructor
  · exact fun h e he u hu => h u (.property he hu)
  · intro h u hu
    cases hu with
    | self => exact ⟨by simp, by simp⟩
    | property he hu => exact h _ he u hu

mutual

/-- **`isResolved` DECIDES WHETHER A TYPE IS KNOWN.** -/
theorem isResolved_iff : ∀ t : ValueType, t.isResolved = true ↔ Known t
  | .primitive p => ⟨fun _ => known_primitive p, fun _ => rfl⟩
  | .model name => ⟨fun _ => known_model name, fun _ => rfl⟩
  | .any => ⟨fun _ => known_any, fun _ => rfl⟩
  | .unresolved => ⟨nofun, fun h => absurd h not_known_unresolved⟩
  | .ref target => ⟨nofun, fun h => absurd h (not_known_ref target)⟩
  | .array t => (isResolved_iff t).trans known_array.symm
  | .object ps => (areResolved_iff ps).trans known_object.symm

theorem areResolved_iff : ∀ ps : List (String × ValueType),
    areResolved ps = true ↔ ∀ e ∈ ps, Known e.2
  | [] => by simp [areResolved]
  | (k, t) :: rest => by
      rw [areResolved, Bool.and_eq_true, isResolved_iff t, areResolved_iff rest, List.forall_mem_cons]

end

theorem known_map : Known map := known_object.mpr nofun

/-- No part of the type is a model. -/
def ModelFree (t : ValueType) : Prop := ∀ name, ¬ Part t (.model name)

theorem modelFree_primitive (p : Primitive) : ModelFree (.primitive p) := nofun

theorem modelFree_any : ModelFree .any := nofun

theorem modelFree_object {ps : List (String × ValueType)} :
    ModelFree (.object ps) ↔ ∀ e ∈ ps, ModelFree e.2 := by
  constructor
  · exact fun h e he name hpart => h name (.property he hpart)
  · intro h name hpart
    cases hpart with
    | property he hpart => exact h _ he name hpart

theorem modelFree_map : ModelFree map := modelFree_object.mpr nofun

/-! ## §2. Paths. -/

/-- A step down a type: to the items of an array, or to a property of an object by its index. -/
inductive Step
  | items
  | property (index : Nat)

/-- The part of a type that is a step below it. -/
def child? : ValueType → Step → Option ValueType
  | .array t, .items => some t
  | .object ps, .property i => ps[i]?.map (·.2)
  | _, _ => none

/-- The part of a type at a path. -/
def at? : ValueType → List Step → Option ValueType
  | t, [] => some t
  | t, step :: path => (t.child? step).bind (at? · path)

theorem child?_property (ps : List (String × ValueType)) (i : Nat) :
    (object ps).child? (.property i) = ps[i]?.map (·.2) := rfl

theorem at?_cons (t : ValueType) (step : Step) (path : List Step) :
    t.at? (step :: path) = (t.child? step).bind (at? · path) := rfl

/-- **EVERY PART STANDS AT A PATH**, and nothing else does. -/
theorem part_iff {t u : ValueType} : Part t u ↔ ∃ path, t.at? path = some u := by
  constructor
  · intro h
    induction h with
    | self t => exact ⟨[], rfl⟩
    | items _ ih =>
      obtain ⟨path, hpath⟩ := ih
      exact ⟨.items :: path, hpath⟩
    | @property ps k t u hmem _ ih =>
      obtain ⟨path, hpath⟩ := ih
      obtain ⟨i, hi⟩ := List.mem_iff_getElem?.mp hmem
      refine ⟨.property i :: path, ?_⟩
      rw [at?_cons, child?_property, hi]
      exact hpath
  · rintro ⟨path, hpath⟩
    induction path generalizing t with
    | nil =>
      cases hpath
      exact .self _
    | cons step path ih =>
      rw [at?_cons, Option.bind_eq_some_iff] at hpath
      obtain ⟨v, hchild, hv⟩ := hpath
      have hpart : Part v u := ih hv
      cases t with
      | array t =>
        cases step with
        | items =>
          cases hchild
          exact .items hpart
        | property i => cases hchild
      | object ps =>
        cases step with
        | items => cases hchild
        | property i =>
          rw [child?_property] at hchild
          obtain ⟨⟨k, w⟩, hi, rfl⟩ := Option.map_eq_some_iff.mp hchild
          exact .property (List.mem_of_getElem? hi) hpart
      | primitive _ | ref _ | model _ | any | unresolved => cases hchild

/-! ## §3. Degrading. -/

theorem child?_degrade (t : ValueType) (step : Step) :
    t.degrade.child? step = (t.child? step).map degrade := by
  cases t with
  | array t => cases step <;> rfl
  | object ps =>
    cases step with
    | items => rfl
    | property i =>
      rw [degrade, child?_property, child?_property, degradeAll_eq, Table.mapValues,
        List.getElem?_map, Option.map_map, Option.map_map]
      rfl
  | primitive _ | ref _ | model _ | any | unresolved => cases step <;> rfl

/-- **DEGRADING ACTS AT EVERY PATH ALIKE.** -/
theorem at?_degrade (t : ValueType) (path : List Step) :
    t.degrade.at? path = (t.at? path).map degrade := by
  induction path generalizing t with
  | nil => rfl
  | cons step path ih =>
    rw [at?_cons, at?_cons, child?_degrade]
    cases t.child? step with
    | none => rfl
    | some u => exact ih u

/-- The parts of a degraded type are the degraded parts. -/
theorem part_degrade {t u : ValueType} : Part t.degrade u ↔ ∃ v, Part t v ∧ v.degrade = u := by
  simp only [part_iff, at?_degrade, Option.map_eq_some_iff]
  constructor
  · rintro ⟨path, v, hv, rfl⟩
    exact ⟨v, ⟨path, hv⟩, rfl⟩
  · rintro ⟨v, ⟨path, hv⟩, rfl⟩
    exact ⟨path, v, hv, rfl⟩

/-- A type degrades to that of any value when nothing is known of it. -/
theorem degrade_eq_any_iff {t : ValueType} (h : t ≠ .any) :
    t.degrade = .any ↔ t.isUnknown = true := by
  cases t with
  | any => exact absurd rfl h
  | unresolved | ref _ => exact iff_of_true rfl rfl
  | primitive _ | array _ | object _ | model _ => exact iff_of_false nofun nofun

/-- **DEGRADING LEAVES NOTHING UNKNOWN.** -/
theorem known_degrade (t : ValueType) : Known t.degrade := by
  intro u hu
  obtain ⟨v, -, rfl⟩ := part_degrade.mp hu
  cases v <;> exact ⟨nofun, nofun⟩

/-- **DEGRADING MAKES NO MODEL.** -/
theorem modelFree_degrade {t : ValueType} (h : ModelFree t) : ModelFree t.degrade := by
  intro name hpart
  obtain ⟨v, hv, hmodel⟩ := part_degrade.mp hpart
  cases v with
  | model => exact h _ hv
  | primitive _ | array _ | object _ | ref _ | any | unresolved => cases hmodel

mutual

/-- **WHAT IS KNOWN STAYS AS IT IS.** -/
theorem degrade_of_known : ∀ t : ValueType, Known t → t.degrade = t
  | .primitive _, _ | .model _, _ | .any, _ => rfl
  | .unresolved, h => absurd h not_known_unresolved
  | .ref target, h => absurd h (not_known_ref target)
  | .array t, h => congrArg ValueType.array (degrade_of_known t (known_array.mp h))
  | .object ps, h => congrArg ValueType.object (degradeAll_of_known ps (known_object.mp h))

theorem degradeAll_of_known : ∀ ps : List (String × ValueType), (∀ e ∈ ps, Known e.2) →
    degradeAll ps = ps
  | [], _ => rfl
  | (k, t) :: rest, h => by
      obtain ⟨ht, hrest⟩ := List.forall_mem_cons.mp h
      rw [degradeAll, degrade_of_known t ht, degradeAll_of_known rest hrest]

end

theorem degrade_degrade (t : ValueType) : t.degrade.degrade = t.degrade :=
  degrade_of_known _ (known_degrade t)

/-! ## §4. What schemas mean. -/

/-- **NEITHER A MODEL NOR ANY VALUE IS READ FROM A SCHEMA**, at any depth. -/
theorem ne_of_part_ofSchema {s : Schema} {u : ValueType} (h : Part (ofSchema s) u) :
    u ≠ .any ∧ ∀ name, u ≠ .model name := by
  induction s using ofSchema_induct generalizing u with
  | ref target =>
    rw [ofSchema_ref] at h
    cases h
    exact ⟨nofun, nofun⟩
  | wraps b s hs ih =>
    rw [ofSchema_of_wraps hs] at h
    exact ih h
  | array b harray ih =>
    rw [ofSchema_of_array harray] at h
    cases h with
    | self => exact ⟨nofun, nofun⟩
    | items h =>
      cases hitems : b.items with
      | none =>
        rw [hitems] at h
        cases h
        exact ⟨nofun, nofun⟩
      | some s =>
        rw [hitems] at h
        exact ih s hitems h
  | object b hobject ih =>
    rw [ofSchema_of_object hobject] at h
    rcases objectOf_reading (b.map ofSchema) with hread | hread
    · rw [hread] at h
      cases h with
      | self => exact ⟨nofun, nofun⟩
      | property hmem h =>
        obtain ⟨e, he, heq⟩ := List.mem_map.mp hmem
        cases heq
        exact ih e.2 (List.mem_map_of_mem he) h
    · rw [hread] at h
      cases h
      exact ⟨nofun, nofun⟩
  | primitive b p hp =>
    rw [hp] at h
    cases h
    exact ⟨nofun, nofun⟩
  | nothing b hnone =>
    rw [hnone] at h
    cases h
    exact ⟨nofun, nofun⟩

theorem ofSchema_ne (s : Schema) : ofSchema s ≠ .any ∧ ∀ name, ofSchema s ≠ .model name :=
  ne_of_part_ofSchema (.self _)

theorem modelFree_ofSchema (s : Schema) : ModelFree (ofSchema s) :=
  fun name h => (ne_of_part_ofSchema h).2 name rfl

end ApiMethods.ValueType
