/-
  ApiMethods.Proofs.Merging
  ─────────────────────────
  **THE PARAMETERS OF AN OPERATION, READ OFF ITS DECLARATIONS.**

  The compiler merges declarations one by one and then builds an argument from each.  Here
  both are read off the list of declarations as a whole, the shared ones first:

    • merging fails at the first declaration that is still a reference (`fault?_of`), and
      otherwise the parameters are the table written from those in one of the four places,
      and the body is the last one in the older form (`of_eq_ok`),
    • building fails at the first parameter that has no type (`fault?_buildAll`), and
      otherwise makes one argument from each, in the same order (`forall₂_of_buildAll`).
-/
import ApiMethods.Proofs.Stages

namespace ApiMethods

open ApiMethods.Source (OrRef)
open Document (Parameter)

/-! ## §1. Declarations. -/

/-- The target, if there is only a reference. -/
def Source.OrRef.target? {α : Type} : OrRef α → Option String
  | .ref target => some target
  | .inline _ => none

namespace Declared

/-- The parameters that an operation declares, those of its path first. -/
def declarations (x : Declared) : List (OrRef Parameter) := x.shared ++ x.operation.parameters

/-- The parameters among them that are not references. -/
def written (x : Declared) : List Parameter := x.declarations.filterMap OrRef.inline?

end Declared

/-- A parameter under its name and place, if the place is one of the four. -/
def keyed? (p : Parameter) : Option (Argument.Key × Parameter) :=
  match p.location with
  | .known l => some ((p.name, l), p)
  | .other _ => none

namespace Declared

/-- The parameters of an operation by name and place: a later declaration stands, whole, at the place
    of an earlier one. -/
def merged (x : Declared) : Table Argument.Key Parameter :=
  .ofEntries (x.written.filterMap keyed?)

/-- The body of an operation in the older form, the last one that is declared. -/
def olderBody? (x : Declared) : Option Parameter := (x.written.filter (·.isBody)).getLast?

end Declared

/-! ## §2. Merging. -/

namespace Argument.Merged

theorem fault?_declared (l : List (OrRef Parameter)) :
    fault? (declared l) = l.findSome? fun p => p.target?.map .unresolvedReference := by
  induction l with
  | nil => rfl
  | cons p rest ih =>
    cases p with
    | ref target => rfl
    | inline p => exact (fault?_map _ _).trans ih

theorem eq_of_declared {l : List (OrRef Parameter)} {ps : List Parameter}
    (h : declared l = .ok ps) : ps = l.filterMap OrRef.inline? := by
  induction l generalizing ps with
  | nil =>
    cases h
    rfl
  | cons p rest ih =>
    cases p with
    | ref target => cases h
    | inline p =>
      obtain ⟨qs, hqs, rfl⟩ := map_eq_ok h
      rw [ih hqs]
      rfl

/-- Of some declarations, references among them, the parameters are some of the parameters. -/
theorem declared_filter {keep : OrRef Parameter → Bool} (href : ∀ target, keep (.ref target) = true)
    (l : List (OrRef Parameter)) :
    declared (l.filter keep) = (declared l).map (List.filter fun p => keep (.inline p)) := by
  induction l with
  | nil => rfl
  | cons p rest ih =>
    cases p with
    | ref target =>
      rw [List.filter_cons_of_pos (href target)]
      rfl
    | inline p =>
      cases hp : keep (.inline p) with
      | true =>
        rw [List.filter_cons_of_pos hp]
        show (declared (rest.filter keep)).map (p :: ·) = ((declared rest).map (p :: ·)).map _
        rw [ih]
        cases declared rest <;> simp [Except.map, hp]
      | false =>
        rw [List.filter_cons_of_neg (by simp [hp])]
        show declared (rest.filter keep) = ((declared rest).map (p :: ·)).map _
        rw [ih]
        cases declared rest <;> simp [Except.map, hp]

/-- The place of a body in the older form is none of the four. -/
theorem keyed?_eq_none_of_isBody {p : Parameter} (h : p.isBody = true) : keyed? p = none := by
  have hp : p.location = .other "body" := of_decide_eq_true h
  simp [keyed?, hp]

/-- **Step**: a declaration goes to the table or to the body, or nowhere. -/
theorem add_eq (m : Merged) (p : Parameter) :
    m.add p = ⟨((keyed? p).toList).foldl (fun t e => t.insert e.1 e.2) m.parameters,
      if p.isBody then some p else m.body⟩ := by
  cases hp : p.location with
  | known l =>
    have hbody : p.isBody = false := by simp [Parameter.isBody, Document.Placing.body, hp]
    simp [add, keyed?, hp, hbody]
  | other name =>
    by_cases hbody : p.isBody <;> simp [add, keyed?, hp, hbody]

/-- **Run**: what merging makes of declarations. -/
theorem foldl_add (ps : List Parameter) (m : Merged) :
    ps.foldl add m = ⟨(ps.filterMap keyed?).foldl (fun t e => t.insert e.1 e.2) m.parameters,
      ((ps.filter (·.isBody)).getLast?).or m.body⟩ := by
  induction ps generalizing m with
  | nil => rfl
  | cons p rest ih =>
    rw [List.foldl_cons, ih, add_eq]
    by_cases hbody : p.isBody
    · -- a body goes to no place of the table, and gives way to any body behind it
      rw [keyed?_eq_none_of_isBody hbody, List.filter_cons_of_pos hbody, List.getLast?_cons,
        List.filterMap_cons_none (keyed?_eq_none_of_isBody hbody)]
      cases (rest.filter (·.isBody)).getLast? <;> simp [hbody]
    · rw [List.filter_cons_of_neg hbody]
      cases hk : keyed? p with
      | none => simp [List.filterMap_cons_none hk, hbody]
      | some e => simp [List.filterMap_cons_some hk, hbody]

section Lists

variable {shared own : List (OrRef Parameter)}

theorem fault?_of_lists :
    fault? (of shared own)
      = (shared ++ own).findSome? fun p => p.target?.map .unresolvedReference :=
  (fault?_map _ _).trans (fault?_declared _)

theorem eq_of_lists {m : Merged} (h : of shared own = .ok m) :
    m = ⟨.ofEntries (((shared ++ own).filterMap OrRef.inline?).filterMap keyed?),
      (((shared ++ own).filterMap OrRef.inline?).filter (·.isBody)).getLast?⟩ := by
  obtain ⟨ps, hps, rfl⟩ := map_eq_ok h
  rw [eq_of_declared hps, foldl_add, show empty.body = none from rfl, Option.or_none]
  rfl

end Lists

/-- **MERGING FAILS AT THE FIRST REFERENCE.** -/
theorem fault?_of (x : Declared) :
    fault? (of x.shared x.operation.parameters)
      = x.declarations.findSome? fun p => p.target?.map .unresolvedReference :=
  fault?_of_lists

/-- **WHAT MERGING YIELDS.** -/
theorem of_eq_ok {x : Declared} {m : Merged} (h : of x.shared x.operation.parameters = .ok m) :
    m = ⟨x.merged, x.olderBody?⟩ :=
  eq_of_lists h

end Argument.Merged

/-! ## §3. Building. -/

/-- Lists whose items agree in what is read off them, one by one, agree in it as a whole. -/
theorem map_eq_of_forall₂ {α β γ : Type} {R : α → β → Prop} {f : α → γ} {g : β → γ}
    (h : ∀ a b, R a b → g b = f a) {l : List α} {l' : List β} (hl : List.Forall₂ R l l') :
    l'.map g = l.map f := by
  induction hl with
  | nil => rfl
  | cons hab _ ih => rw [List.map_cons, List.map_cons, ih, h _ _ hab]

namespace Argument

/-- What is built keeps name and place, and has the type that was settled. -/
theorem of_build {p : Parameter} {location : Location} {a : Argument}
    (h : build p location = .ok a) :
    a.name = p.name ∧ a.location = location ∧ typeOf p location = .ok a.type := by
  obtain ⟨t, ht, rfl⟩ := map_eq_ok h
  exact ⟨rfl, rfl, ht⟩

/-- **BUILDING FAILS AT THE FIRST PARAMETER WITHOUT A TYPE.** -/
theorem fault?_buildAll (m : Merged) :
    fault? (buildAll m) = m.parameters.findSome? fun e => fault? (typeOf e.2 e.1.2) := by
  unfold buildAll
  rw [fault?_map, fault?_mapM]
  simp only [build, fault?_map]

/-- **BUILDING MAKES ONE ARGUMENT OF EACH PARAMETER**, in order. -/
theorem forall₂_of_buildAll {m : Merged} {args : Arguments} (h : buildAll m = .ok args) :
    ∃ l, args = .ofList l ∧
      List.Forall₂ (fun e a => build e.2 e.1.2 = .ok a) m.parameters l := by
  obtain ⟨l, hl, rfl⟩ := map_eq_ok h
  exact ⟨l, rfl, forall₂_of_mapM hl⟩

/-- The names of the parameters in a place, in order. -/
def namesIn (location : Location) (t : Table Key Parameter) : List String :=
  (t.filter fun e => e.1.2 = location).map (·.2.name)

/-- What is kept in a place is what travels there. -/
theorem inLocation_ofList (l : List Argument) (location : Location) :
    (Arguments.ofList l).inLocation location = l.filter (·.location = location) := by
  cases location <;> rfl

/-- **THE ARGUMENTS IN A PLACE ARE BUILT FROM THE PARAMETERS THERE**, in order. -/
theorem forall₂_inLocation {m : Merged} {args : Arguments} (h : buildAll m = .ok args)
    (location : Location) :
    List.Forall₂ (fun e a => build e.2 location = .ok a)
      (m.parameters.filter fun e => e.1.2 = location) (args.inLocation location) := by
  obtain ⟨l, rfl, hl⟩ := forall₂_of_buildAll h
  rw [inLocation_ofList]
  clear h
  revert hl
  generalize m.parameters = t
  intro hl
  -- along both lists: an argument is kept in a place exactly when its parameter is
  induction hl with
  | nil => exact .nil
  | @cons e a t l hea _ ih =>
    obtain ⟨-, hlocation, -⟩ := of_build hea
    by_cases he : e.1.2 = location
    · have ha : a.location = location := hlocation.trans he
      rw [List.filter_cons_of_pos (by simpa using he), List.filter_cons_of_pos (by simpa using ha)]
      rw [he] at hea
      exact .cons hea ih
    · have ha : a.location ≠ location := fun ha => he (hlocation.symm.trans ha)
      rwa [List.filter_cons_of_neg (by simpa using he), List.filter_cons_of_neg (by simpa using ha)]

/-- The arguments in a place have the names of the parameters there. -/
theorem map_name_inLocation {m : Merged} {args : Arguments} (h : buildAll m = .ok args)
    (location : Location) :
    (args.inLocation location).map (·.name) = namesIn location m.parameters := by
  have hname : ∀ (e : Key × Parameter) (a : Argument), build e.2 location = .ok a →
      a.name = e.2.name := fun e a hea => (of_build hea).1
  exact map_eq_of_forall₂ hname (forall₂_inLocation h location)

end Argument

end ApiMethods
