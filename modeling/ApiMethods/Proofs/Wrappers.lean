/-
  ApiMethods.Proofs.Wrappers
  ──────────────────────────
  **WHAT A PARAMETER LOSES UNDER A WRAPPER.**

  The type of a schema sees through a wrapper, an `allOf` with one schema, while inlining does not
  enter it.  A wrapped parameter is typed by its schema as it is declared, and without the wrapper
  by its schema as it is inlined.  When `Tag` is a string:

      schema                                      bare               wrapped
      {type: integer}                             integer            integer
      {$ref: Tag}                                 string             refused
      {type: array, items: {$ref: Tag}}           array of strings   array of anything
      {$ref: Missing}                             refused            refused

  Something is lost exactly when the schema EXPOSES a reference: when it is a reference to something
  known, or shows such a member in its type, at any depth (`Exposes`).  In a path, where only simple
  types are accepted, a reference at the root is all that can be lost.  Nothing is ever gained.
-/
import ApiMethods.Proofs.SkipRules

namespace ApiMethods

open ApiMethods.Source (OrRef)
open Document (Schema SchemaBody Parameter)
open ValueType (ofSchema)

/-! ## §1. What inlining adds to a type. -/

/-- Inlining makes something known of the type of the schema. -/
inductive Exposes (d : Document) : Schema → Prop
  /-- A reference leads to something known. -/
  | ref {target : String} : (ofSchema (d.inlineSchema (.ref target))).isUnknown = false →
      Exposes d (.ref target)
  /-- A member that the type shows does. -/
  | member {b : SchemaBody Schema} {s : Schema} : b.Shows s → Exposes d s → Exposes d (.inline b)

namespace ValueType

/-- Types with the same top are equal when one has no parts. -/
theorem SameTop.eq_of_isPrimitive {t u : ValueType} (h : SameTop t u) (hu : u.isPrimitive = true) :
    t = u := by
  cases h with
  | refl => rfl
  | array | object => cases hu

theorem SameTop.eq_of_isUnknown {t u : ValueType} (h : SameTop t u) (hu : u.isUnknown = true) :
    t = u := by
  cases h with
  | refl => rfl
  | array | object => cases hu

/-- What is read from a schema is known when it is simple or has parts. -/
theorem isUnknown_ofSchema {s : Schema} {t : ValueType} (h : ofSchema s = t) :
    t.isUnknown = false ↔ t.isPrimitive = true ∨ t.isComposite = true := by
  have hread := ofSchema_ne s
  cases t with
  | primitive _ => exact iff_of_true rfl (.inl rfl)
  | array _ | object _ => exact iff_of_true rfl (.inr rfl)
  | unresolved | ref _ => exact iff_of_false nofun (by rintro (h | h) <;> cases h)
  | any => exact absurd h hread.1
  | model name => exact absurd h (hread.2 name)

end ValueType

theorem exposes_inline_iff {d : Document} {b : SchemaBody Schema} :
    Exposes d (.inline b) ↔ ∃ s, b.Shows s ∧ Exposes d s := by
  constructor
  · intro h
    cases h with
    | member hshows hs => exact ⟨_, hshows, hs⟩
  · rintro ⟨s, hshows, hs⟩
    exact .member hshows hs

namespace Document

variable (d : Document)

theorem inlineSchema_inline (b : SchemaBody Schema) :
    d.inlineSchema (.inline b) = .inline (b.mapMembers d.inlineSchema) := inlineFrom_inline d [] b

/-- A reference becomes the body that it points at, whose members are inlined while it is in
    progress. -/
theorem inlineSchema_ref {target : String} {b : SchemaBody Schema} (h : d.schemaAt? target = some b) :
    d.inlineSchema (.ref target) = .inline (b.mapMembers (d.inlineFrom [target])) := by
  unfold inlineSchema
  rw [inlineFrom_ref, if_neg List.not_mem_nil, h]
  exact inlineFrom_inline d [target] b

/-- What a body shows is one of its members. -/
theorem SchemaBody.Shows.mem_members {b : SchemaBody Schema} {s : Schema} (h : b.Shows s) :
    s ∈ b.members := by
  rcases h with ⟨-, hitems⟩ | ⟨-, hproperty⟩
  · exact List.mem_append_right _ (Option.mem_toList.mpr hitems)
  · exact List.mem_append_left _ hproperty

/-- **INLINING CHANGES A TYPE, UP TO UNKNOWN PARTS, EXACTLY WHEN THE SCHEMA EXPOSES SOMETHING.** -/
theorem degrade_inlineSchema_iff : ∀ s : Schema,
    (ofSchema (d.inlineSchema s)).degrade = (ofSchema s).degrade ↔ ¬ Exposes d s
  | .ref target => by
      -- of a reference by itself nothing is known, so it degrades to any value
      have hany : (ofSchema (.ref target)).degrade = .any := rfl
      rw [hany, ValueType.degrade_eq_any_iff (ValueType.ofSchema_ne _).1]
      constructor
      · intro hunknown hexposes
        cases hexposes with
        | ref hknown => rw [hunknown] at hknown; cases hknown
      · intro hnot
        by_contra hknown
        exact hnot (.ref (Bool.eq_false_iff.mpr hknown))
  | .inline b => by
      rw [inlineSchema_inline, ValueType.degrade_mapMembers_iff, exposes_inline_iff, not_exists]
      refine forall_congr' fun s => ?_
      rw [not_and]
      -- a member that is shown is smaller than the schema
      exact forall_congr' fun hshows => degrade_inlineSchema_iff s
termination_by s => sizeOf s
decreasing_by exact sizeOf_lt_of_mem_members hshows.mem_members

end Document

/-! ## §2. What becomes of a parameter with a schema. -/

/-- A parameter that is declared in a place with a schema. -/
def Document.Parameter.declared (p : Parameter) (location : Location) (s : Schema) : Parameter :=
  { p with location := .known location, schema := some s }

namespace Argument

variable {p : Parameter} {location : Location} {u v : Schema}

/-- When a parameter can be typed by a schema. -/
theorem typeFault?_declared_eq_none :
    typeFault? location (p.declared location u) = none ↔
      (location = .path → p.required ≠ some false ∧ (ofSchema u).isPrimitive = true) ∧
        (ofSchema u).isUnknown = false := by
  rw [ValueType.isUnknown_ofSchema rfl, typeFault?_eq_none]
  unfold Typeable
  have htype : declaredType? (p.declared location u) = some (ofSchema u) := rfl
  rw [htype]
  simp only [Option.some.injEq, exists_eq_left']
  by_cases hpath : location = .path
  · rw [if_pos hpath]
    constructor
    · exact fun h => ⟨fun _ => h, .inl h.2⟩
    · exact fun h => h.1 hpath
  · rw [if_neg hpath]
    exact (and_iff_right fun h => absurd h hpath).symm

/-- What is wrong with a parameter that has a schema depends on what this means. -/
theorem typeFault?_declared :
    typeFault? location (p.declared location u) =
      if location = .path then
        if p.required = some false then some (.pathParameterNotRequired p.name)
        else if (ofSchema u).isPrimitive then none
        else some (.unresolvedPathParameterType p.name)
      else if (ofSchema u).isPrimitive || (ofSchema u).isComposite then none
      else some (.unresolvedParameterType p.name location) := rfl

/-- In one place there is one reason to refuse a parameter for what its schema means. -/
theorem typeFault?_unique {reason reason' : SkipReason}
    (h : typeFault? location (p.declared location u) = some reason)
    (h' : typeFault? location (p.declared location v) = some reason') : reason = reason' := by
  rw [typeFault?_declared] at h h'
  by_cases hpath : location = .path
  · rw [if_pos hpath] at h h'
    by_cases hrequired : p.required = some false
    · rw [if_pos hrequired] at h h'
      exact Option.some.inj (h.symm.trans h')
    · rw [if_neg hrequired] at h h'
      split at h <;> cases h
      split at h' <;> cases h'
      rfl
  · rw [if_neg hpath] at h h'
    split at h <;> cases h
    split at h' <;> cases h'
    rfl

/-- What a schema means decides about a parameter by its top. -/
theorem typeFault?_of_sameTop (h : ValueType.SameTop (ofSchema u) (ofSchema v)) :
    typeFault? location (p.declared location u) = typeFault? location (p.declared location v) := by
  rw [typeFault?_declared, typeFault?_declared]
  generalize ofSchema u = t at h
  generalize ofSchema v = t' at h
  cases h with
  | refl => rfl
  | array => rfl
  | object => rfl

/-- It decides about the argument by its top as well, apart from the type itself. -/
theorem ofTyped_of_sameTop (p : Parameter) (location : Location) {t t' : ValueType}
    (h : ValueType.SameTop t t') :
    ofTyped p location t'.degrade = { ofTyped p location t.degrade with type := t'.degrade } := by
  cases h with
  | refl => rfl
  | array => rfl
  | object => rfl

/-- What becomes of a parameter that is typed by a schema: it is refused, or else it makes an
    argument, which records a schema. -/
def outcomeOf (p : Parameter) (location : Location) (s recorded : Schema) :
    Except SkipReason Argument :=
  match typeFault? location (p.declared location s) with
  | some reason => .error reason
  | none => .ok { ofTyped p location (ofSchema s).degrade with schema := some recorded }

/-- A parameter that is built is typed by its own schema, and records it. -/
theorem build_declared (p : Parameter) (location : Location) (s : Schema) :
    build (p.declared location s) location = outcomeOf p location s s := by
  unfold build outcomeOf
  rw [typeOf_eq]
  cases typeFault? location (p.declared location s) with
  | some reason => rfl
  | none => rfl

/-- An argument without the schema that it records. -/
def withoutSchema (a : Argument) : Argument := { a with schema := none }

/-- Parameters whose types have the same top have the same outcome when the types are the same up to
    unknown parts, or when such types are refused. -/
theorem same_outcome_iff {r r' : Schema} (h : ValueType.SameTop (ofSchema u) (ofSchema v)) :
    (outcomeOf p location u r).map withoutSchema = (outcomeOf p location v r').map withoutSchema ↔
      (typeFault? location (p.declared location v) = none →
        (ofSchema u).degrade = (ofSchema v).degrade) := by
  unfold outcomeOf
  rw [typeFault?_of_sameTop h]
  cases typeFault? location (p.declared location v) with
  | some reason => exact iff_of_true rfl nofun
  | none =>
    show Except.ok _ = Except.ok _ ↔ _
    rw [ofTyped_of_sameTop p location h]
    constructor
    · intro heq _
      exact congrArg Argument.type (Except.ok.inj heq)
    · intro htype
      rw [← htype rfl]
      rfl

/-- A parameter that is refused has the same outcome only with what is refused as well. -/
theorem same_outcome_of_refused {r r' : Schema} {reason : SkipReason}
    (h : typeFault? location (p.declared location v) = some reason) :
    (outcomeOf p location u r).map withoutSchema = (outcomeOf p location v r').map withoutSchema ↔
      typeFault? location (p.declared location u) ≠ none := by
  unfold outcomeOf
  rw [h]
  cases hu : typeFault? location (p.declared location u) with
  | some reason' =>
    rw [typeFault?_unique hu h]
    exact iff_of_true rfl nofun
  | none => exact iff_of_false nofun fun hne => hne rfl

end Argument

/-! ## §3. The same parameter with and without a wrapper. -/

namespace Document

/-- A schema in a wrapper that says nothing else. -/
def Schema.wrapped (s : Schema) : Schema := .inline { allOf := [s] }

/-- The argument that a declaration makes: its references are replaced, and then it is built. -/
def argument (d : Document) (x : OrRef Parameter) (location : Location) :
    Except SkipReason Argument :=
  match (Inlining.parameter d x []).1 with
  | .inline p => Argument.build p location
  | .ref target => .error (.unresolvedReference target)

/-- The wrapper hides what the parameter shows without it: in a path a reference to something
    simple, elsewhere whatever the schema exposes. -/
def Obscured (d : Document) (p : Parameter) (location : Location) (s : Schema) : Prop :=
  if location = .path then
    p.required ≠ some false ∧
      ∃ target q, s = .ref target ∧ ofSchema (d.inlineSchema s) = .primitive q
  else Exposes d s

/-- A parameter that is not referred to is inlined and then built. -/
theorem argument_inline (d : Document) (p : Parameter) (location : Location) :
    d.argument (.inline p) location = Argument.build (d.inlineParameter p) location := by
  have hinline : (Inlining.parameter d (.inline p) []).1 = .inline (d.inlineParameter p) := by
    rw [Inlining.gives_parameter d (.inline p)]
    rfl
  unfold argument
  rw [hinline]

section Wrapping

variable (d : Document) (p : Parameter) (location : Location) (s : Schema)

/-- A declared parameter is typed by its schema as it is inlined. -/
theorem argument_declared :
    d.argument (.inline (p.declared location s)) location =
      Argument.outcomeOf p location (d.inlineSchema s) (d.inlineSchema s) := by
  rw [argument_inline]
  exact Argument.build_declared { p with items := p.items.map d.inlineSchema } location
    (d.inlineSchema s)

/-- A wrapped one is typed by its schema as it is declared. -/
theorem argument_wrapped_eq :
    d.argument (.inline (p.declared location s.wrapped)) location =
      Argument.outcomeOf p location s s.wrapped := by
  have hinline : d.inlineSchema s.wrapped = s.wrapped := by
    unfold Schema.wrapped
    rw [inlineSchema_inline]
    rfl
  have hmeaning : ofSchema s.wrapped = ofSchema s := ValueType.ofSchema_of_wraps ⟨rfl, rfl, rfl⟩
  have hfault : typeFault? location (p.declared location s.wrapped)
      = typeFault? location (p.declared location s) := by
    refine Argument.typeFault?_of_sameTop ?_
    rw [hmeaning]
    exact .refl _
  rw [argument_declared, hinline]
  unfold Argument.outcomeOf
  rw [hfault, hmeaning]

/-- Below the root of a schema inlining keeps the top of its type. -/
theorem sameTop_inlineSchema (b : SchemaBody Schema) :
    ValueType.SameTop (ofSchema (d.inlineSchema (.inline b))) (ofSchema (.inline b)) := by
  rw [inlineSchema_inline]
  exact ValueType.sameTop_mapMembers d.inlineSchema b

/-- A reference by itself is refused. -/
theorem exists_typeFault?_ref (target : String) :
    ∃ reason, typeFault? location (p.declared location (.ref target)) = some reason := by
  refine Option.ne_none_iff_exists'.mp fun hnone => ?_
  have hknown := (Argument.typeFault?_declared_eq_none.mp hnone).2
  cases hknown

/-- What is refused without a wrapper is refused with it, for the same reason. -/
theorem typeFault?_wrapped {reason : SkipReason}
    (h : typeFault? location (p.declared location (d.inlineSchema s)) = some reason) :
    typeFault? location (p.declared location s) = some reason := by
  cases s with
  | ref target =>
    obtain ⟨reason', h'⟩ := exists_typeFault?_ref p location target
    rw [h', Argument.typeFault?_unique h h']
  | inline b => rwa [← Argument.typeFault?_of_sameTop (d.sameTop_inlineSchema b)]

/-- What is accepted in a wrapper is no reference, so that inlining keeps the top of its type. -/
theorem sameTop_of_wrapped (h : typeFault? location (p.declared location s) = none) :
    ValueType.SameTop (ofSchema (d.inlineSchema s)) (ofSchema s) := by
  cases s with
  | ref target =>
    obtain ⟨reason, h'⟩ := exists_typeFault?_ref p location target
    rw [h'] at h
    cases h
  | inline b => exact d.sameTop_inlineSchema b

/-- A reference is obscured when it would be accepted without the wrapper. -/
theorem obscured_ref_iff (target : String) :
    d.Obscured p location (.ref target) ↔
      typeFault? location (p.declared location (d.inlineSchema (.ref target))) = none := by
  rw [Argument.typeFault?_declared_eq_none]
  unfold Obscured
  by_cases hpath : location = .path
  · rw [if_pos hpath]
    constructor
    · rintro ⟨hrequired, _, q, -, hq⟩
      rw [hq]
      exact ⟨fun _ => ⟨hrequired, rfl⟩, rfl⟩
    · rintro ⟨hsimple, -⟩
      obtain ⟨hrequired, hprimitive⟩ := hsimple hpath
      refine ⟨hrequired, target, ?_⟩
      cases ht : ofSchema (d.inlineSchema (.ref target)) with
      | primitive q => exact ⟨q, rfl, rfl⟩
      | array _ | object _ | ref _ | model _ | any | unresolved =>
        rw [ht] at hprimitive
        cases hprimitive
  · rw [if_neg hpath]
    constructor
    · intro hexposes
      cases hexposes with
      | ref hknown => exact ⟨fun h => absurd h hpath, hknown⟩
    · rintro ⟨-, hknown⟩
      exact .ref hknown

/-- Anything else is obscured when it is accepted and inlining would change its type. -/
theorem obscured_inline_iff (b : SchemaBody Schema) :
    ¬ d.Obscured p location (.inline b) ↔
      (typeFault? location (p.declared location (.inline b)) = none →
        (ofSchema (d.inlineSchema (.inline b))).degrade = (ofSchema (.inline b)).degrade) := by
  rw [Argument.typeFault?_declared_eq_none]
  have htop := d.sameTop_inlineSchema b
  unfold Obscured
  by_cases hpath : location = .path
  · rw [if_pos hpath]
    refine iff_of_true ?_ ?_
    · rintro ⟨-, _, _, href, -⟩
      cases href
    · -- in a path only simple types are accepted, and these have no members
      rintro ⟨hsimple, -⟩
      rw [htop.eq_of_isPrimitive (hsimple hpath).2]
  · rw [if_neg hpath, ← degrade_inlineSchema_iff]
    constructor
    · exact fun heq _ => heq
    · intro h
      -- what is refused here is unknown, and then it has no members
      cases hunknown : (ofSchema (.inline b)).isUnknown with
      | false => exact h ⟨fun h => absurd h hpath, hunknown⟩
      | true => rw [htop.eq_of_isUnknown hunknown]

/-- **A WRAPPER HIDES WHAT IS BEHIND REFERENCES, AND NOTHING ELSE.**  A wrapped parameter that is
accepted makes the same argument as without the wrapper, but for the type, in which references are
not inlined, and the recorded schema.  A parameter that is refused without the wrapper is refused with
it, for the same reason.  And the outcomes are the same, apart from the recorded schema, exactly
when nothing is obscured. -/
theorem argument_wrapped :
    (∀ a', d.argument (.inline (p.declared location s.wrapped)) location = .ok a' →
      ∃ a, d.argument (.inline (p.declared location s)) location = .ok a ∧
        a' = { a with type := (ofSchema s).degrade, schema := some s.wrapped }) ∧
    (∀ reason, d.argument (.inline (p.declared location s)) location = .error reason →
      d.argument (.inline (p.declared location s.wrapped)) location = .error reason) ∧
    ((d.argument (.inline (p.declared location s)) location).map Argument.withoutSchema =
        (d.argument (.inline (p.declared location s.wrapped)) location).map
          Argument.withoutSchema ↔
      ¬ d.Obscured p location s) := by
  rw [argument_wrapped_eq, argument_declared]
  refine ⟨fun a' ha' => ?_, fun reason hreason => ?_, ?_⟩
  · -- accepted in the wrapper
    unfold Argument.outcomeOf at ha' ⊢
    cases hfault : typeFault? location (p.declared location s) with
    | some reason =>
      rw [hfault] at ha'
      cases ha'
    | none =>
      rw [hfault] at ha'
      cases ha'
      have htop := d.sameTop_of_wrapped p location s hfault
      rw [Argument.typeFault?_of_sameTop htop, hfault]
      exact ⟨_, rfl, by rw [Argument.ofTyped_of_sameTop p location htop]⟩
  · -- refused without it
    unfold Argument.outcomeOf at hreason ⊢
    cases hfault : typeFault? location (p.declared location (d.inlineSchema s)) with
    | none =>
      rw [hfault] at hreason
      cases hreason
    | some reason' =>
      rw [hfault] at hreason
      cases hreason
      rw [d.typeFault?_wrapped p location s hfault]
  · -- a reference is always refused in the wrapper; anything else keeps the top of its type
    cases s with
    | ref target =>
      obtain ⟨reason, hreason⟩ := exists_typeFault?_ref p location target
      rw [Argument.same_outcome_of_refused hreason, obscured_ref_iff]
    | inline b => rw [Argument.same_outcome_iff (d.sameTop_inlineSchema b), obscured_inline_iff]

end Wrapping

/-- A document that declares what a tag is. -/
def tagDocument : Document where
  openapi := some "3.0.3"
  components := some { schemas := [("Tag", .inline { type := some (.one .string) })] }

theorem inlineSchema_tag :
    tagDocument.inlineSchema (.ref "#/components/schemas/Tag")
      = .inline { type := some (.one .string) } := by
  have htarget : tagDocument.schemaAt? "#/components/schemas/Tag"
      = some { type := some (.one .string) } := by
    rfl
  exact inlineSchema_ref _ htarget

/-- **A WRAPPER MAY COST A PARAMETER**: a query by tag is accepted, and refused in a wrapper. -/
theorem exists_obscured :
    ¬ ∀ (d : Document) (p : Parameter) (location : Location) (s : Schema),
      (d.argument (.inline (p.declared location s)) location).map Argument.withoutSchema =
        (d.argument (.inline (p.declared location s.wrapped)) location).map
          Argument.withoutSchema := by
  intro hall
  have hsame := hall tagDocument { name := "tag", location := .known .query } .query
    (.ref "#/components/schemas/Tag")
  rw [argument_wrapped_eq, argument_declared, inlineSchema_tag] at hsame
  -- on the left an argument, on the right a reason to refuse it
  cases hsame

end Document

end ApiMethods
