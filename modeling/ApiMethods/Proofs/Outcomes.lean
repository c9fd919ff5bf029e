/-
  ApiMethods.Proofs.Outcomes
  ──────────────────────────
  **A COMPILATION IS READ OFF WHAT BECOMES OF EACH OPERATION.**

  The OUTCOME of a declared operation is its method, or the reason to leave it out.  The whole
  compilation is made of the outcomes along the walk, and of nothing else:

      methods   the methods among the outcomes,
      imports   what these methods import, once each,
      skipped   the reasons among the outcomes, each with its place,
      issues    those of the catalog, and then those of each outcome.

  A method stands where its operation stands, and whatever is reported of an operation is reported
  under its keys: what a compilation says of one PLACE comes from the operations declared there.

  Two runs over the same walk are therefore compared outcome by outcome.  When the outcomes agree
  up to what some `forget` leaves out of a method, the runs skip the same operations and their
  methods agree up to `forget`, position by position; where the outcomes at a place are equal, so
  is everything that the runs say of that place (§4).
-/
import Mathlib.Data.List.Basic
import ApiMethods.Proofs.PathBinding

namespace ApiMethods

open Document (Paths)

/-! ## §1. Outcomes. -/

namespace Declared

/-- Where an operation is declared. -/
def place (x : Declared) : String × Verb := (x.path, x.verb)

/-- What is listed of an operation that was left out. -/
def skipped? (x : Declared) : Except SkipReason Method → Option Skipped
  | .ok _ => none
  | .error reason => some ⟨x.verb, x.path, reason⟩

/-- What is reported of an operation. -/
def issues (x : Declared) : Except SkipReason Method → List Issue
  | .ok m => m.issues
  | .error reason => [.skipped x.path x.verb reason]

end Declared

/-- The operation is among those that the document declares. -/
def Document.Declares (d : Document) (x : Declared) : Prop :=
  ∃ ps, d.paths = some ps ∧ x ∈ ps.declared

/-- What becomes of a declared operation of a document, once its references are replaced. -/
def Document.outcome (d : Document) (models : Models) (options : Options) (x : Declared) :
    Except SkipReason Method :=
  (x.resolve d).compile (.of d models options)

/-! ## §2. Places. -/

/-- Where a method stands. -/
def Method.place (m : Method) : String × Verb := (m.path.raw, m.verb)

/-- Where an operation stands that was left out. -/
def Skipped.place (s : Skipped) : String × Verb := (s.path, s.verb)

/-- An issue is reported under an operation when the keys of the operation lead to it. -/
def Issue.isUnder (place : String × Verb) (i : Issue) : Bool :=
  (Issue.operationKeys place.1 place.2).isPrefixOf i.keys

/-- **A METHOD STANDS WHERE ITS OPERATION STANDS.** -/
theorem Document.place_of_outcome {d : Document} {models : Models} {options : Options}
    {x : Declared} {m : Method} (h : d.outcome models options x = .ok m) : m.place = x.place := by
  obtain ⟨⟨merged, body, hstages⟩, -, hverb, -⟩ := Declared.stages_of_compile h
  have hraw : m.path.raw = x.path := Path.raw_of_template hstages.binding
  show (m.path.raw, m.verb) = (x.path, x.verb)
  rw [hraw, hverb]
  rfl

namespace Declared

/-- What is reported of an operation is reported under its keys. -/
theorem keys_of_mem_issues {x : Declared} {w : Except SkipReason Method}
    (hplace : ∀ m, w = .ok m → m.place = x.place) {i : Issue} (hi : i ∈ x.issues w) :
    Issue.operationKeys x.path x.verb <+: i.keys := by
  cases w with
  | error reason =>
    cases List.mem_singleton.mp hi
    exact List.prefix_refl _
  | ok m =>
    have hm : (m.path.raw, m.verb) = (x.path, x.verb) := hplace m rfl
    have hprefix : Issue.operationKeys m.path.raw m.verb <+: i.keys := by
      have hi : i ∈ m.issues := hi
      unfold Method.issues at hi
      rcases List.mem_append.mp hi with hi | hi
      · rcases List.mem_append.mp hi with hi | hi
        · split at hi
          · cases List.mem_singleton.mp hi
            exact List.prefix_append _ _
          · cases hi
        · obtain ⟨name, -, rfl⟩ := List.mem_map.mp hi
          exact List.prefix_append _ _
      · split at hi
        · split at hi
          · cases List.mem_singleton.mp hi
            exact List.prefix_append _ _
          · cases hi
        · cases hi
    rw [Prod.mk.injEq] at hm
    rw [hm.1, hm.2] at hprefix
    exact hprefix

/-! Of an operation that stands elsewhere nothing is found at a place. -/

section Elsewhere

variable {x : Declared} {w : Except SkipReason Method} {place : String × Verb}
  (hplace : ∀ m, w = .ok m → m.place = x.place) (hne : x.place ≠ place)
include hplace hne

theorem filter_toOption_of_ne : w.toOption.filter (·.place = place) = none := by
  cases w with
  | error reason => rfl
  | ok m =>
    have hm : m.place ≠ place := by
      rw [hplace m rfl]
      exact hne
    exact Option.filter_some_neg (by simpa using hm)

theorem filter_issues_of_ne : (x.issues w).filter (Issue.isUnder place) = [] := by
  refine List.filter_eq_nil_iff.mpr fun i hi hunder => hne ?_
  have hprefix := keys_of_mem_issues hplace hi
  have hprefix' := List.isPrefixOf_iff_prefix.mp hunder
  -- both lead to the issue in three steps, so they are the same
  have hkeys : Issue.operationKeys x.path x.verb = Issue.operationKeys place.1 place.2 :=
    (List.prefix_of_prefix_length_le hprefix hprefix' (Nat.le_refl 3)).eq_of_length rfl
  unfold Issue.operationKeys at hkeys
  injection hkeys with _ hkeys
  injection hkeys with hpath hkeys
  injection hkeys with hverb _
  exact Prod.ext hpath (Verb.key_injective hverb)

end Elsewhere

end Declared

/-! ## §3. The run. -/

namespace Compilation

/-- The compilation in which the operations of a walk become what they become, behind some
    issues. -/
def ofOutcomes (models : Models) (issues : List Issue) (walk : List Declared)
    (outcome : Declared → Except SkipReason Method) : Compilation where
  methods := walk.filterMap fun x => (outcome x).toOption
  imports := ((walk.filterMap fun x => (outcome x).toOption).flatMap (·.imports models)).eraseDups
  skipped := walk.filterMap fun x => x.skipped? (outcome x)
  issues := issues ++ walk.flatMap fun x => x.issues (outcome x)

theorem mem_methods_ofOutcomes {models : Models} {issues : List Issue} {walk : List Declared}
    {outcome : Declared → Except SkipReason Method} {m : Method} :
    m ∈ (ofOutcomes models issues walk outcome).methods ↔ ∃ x ∈ walk, outcome x = .ok m := by
  show m ∈ walk.filterMap (fun x => (outcome x).toOption) ↔ _
  simp only [List.mem_filterMap, toOption_eq_some]

/-- What one operation contributes, field by field. -/
theorem ofDeclared_eq (c : Method.Context) (x : Declared) :
    ofDeclared c x =
      { methods := (x.compile c).toOption.toList
        imports := ((x.compile c).toOption.toList.flatMap (·.imports c.models)).eraseDups
        skipped := (x.skipped? (x.compile c)).toList
        issues := x.issues (x.compile c) } := by
  unfold ofDeclared
  cases x.compile c with
  | error reason => rfl
  | ok m =>
    show Compilation.mk [m] ((m.imports c.models).foldl addImport []) [] m.issues = _
    rw [foldl_addImport_nil]
    simp [Except.toOption, Declared.skipped?, Declared.issues]

end Compilation

namespace Document

/-- **A COMPILATION IS MADE OF OUTCOMES**, those of its operations in the order of the walk. -/
theorem compile_eq_ofOutcomes (d : Document) (ps : Paths) (models : Models) (options : Options)
    (h : d.paths = some ps) :
    d.compile models options = .ok (.ofOutcomes models d.catalogIssues ps.declared
      (d.outcome models options)) := by
  have hpart : ∀ x : Declared, Compilation.ofDeclared (.of d models options) (x.resolve d) =
      { methods := (d.outcome models options x).toOption.toList
        imports := ((d.outcome models options x).toOption.toList.flatMap
          (·.imports models)).eraseDups
        skipped := (x.skipped? (d.outcome models options x)).toList
        issues := x.issues (d.outcome models options x) } :=
    -- resolving an operation does not move it
    fun x => Compilation.ofDeclared_eq _ _
  rw [compile_eq_join d ps models options h]
  unfold Compilation.join Compilation.ofOutcomes
  simp only [hpart, List.flatMap_map, List.filterMap_eq_flatMap_toList,
    Compilation.eraseDups_flatMap_eraseDups, List.flatMap_assoc]

/-- A document without paths has no compilation. -/
theorem compile_of_no_paths {d : Document} (h : d.paths = none) (models : Models)
    (options : Options) : d.compile models options = .error .missingPaths := by
  unfold compile
  rw [resolve_eq, h]
  rfl

end Document

/-! ## §4. Two runs. -/

section TwoRuns

variable {walk : List Declared} {outcome outcome' : Declared → Except SkipReason Method}

namespace Declared

/-- Leaving something out of a method leaves the reasons as they are. -/
theorem skipped?_map (x : Declared) (w : Except SkipReason Method) (forget : Method → Method) :
    x.skipped? (w.map forget) = x.skipped? w := by
  cases w <;> rfl

/-- What is reported does not change when what is left out of a method reports nothing. -/
theorem issues_map {forget : Method → Method} (h : ∀ m : Method, (forget m).issues = m.issues)
    (x : Declared) (w : Except SkipReason Method) : x.issues (w.map forget) = x.issues w := by
  cases w with
  | error reason => rfl
  | ok m => exact h m

end Declared

namespace Compilation

/-! Outcomes that agree up to what is left out. -/

section UpTo

variable {forget : Method → Method}
  (h : ∀ x ∈ walk, (outcome x).map forget = (outcome' x).map forget)
  (models models' : Models) (issues issues' : List Issue)
include h

/-- **THE METHODS OF TWO RUNS AGREE** as far as their outcomes do, position by position. -/
theorem map_methods_ofOutcomes :
    (ofOutcomes models issues walk outcome).methods.map forget
      = (ofOutcomes models' issues' walk outcome').methods.map forget := by
  have hmap : ∀ w : Except SkipReason Method, w.toOption.map forget = (w.map forget).toOption := by
    intro w
    cases w <;> rfl
  show (walk.filterMap fun x => (outcome x).toOption).map forget
    = (walk.filterMap fun x => (outcome' x).toOption).map forget
  rw [List.map_filterMap, List.map_filterMap]
  refine List.filterMap_congr fun x hx => ?_
  rw [hmap, hmap, h x hx]

/-- **TWO RUNS LEAVE OUT THE SAME OPERATIONS** when their outcomes agree. -/
theorem skipped_ofOutcomes :
    (ofOutcomes models issues walk outcome).skipped
      = (ofOutcomes models' issues' walk outcome').skipped := by
  refine List.filterMap_congr fun x hx => ?_
  rw [← x.skipped?_map (outcome x) forget, h x hx, x.skipped?_map]

/-- **TWO RUNS REPORT THE SAME** when their outcomes agree, and what is left out reports nothing. -/
theorem issues_ofOutcomes (hforget : ∀ m : Method, (forget m).issues = m.issues) :
    (ofOutcomes models issues walk outcome).issues
      = (ofOutcomes models' issues walk outcome').issues := by
  refine congrArg (issues ++ ·) (List.flatMap_congr fun x hx => ?_)
  rw [← Declared.issues_map hforget x (outcome x), h x hx, Declared.issues_map hforget]

/-- **TWO RUNS IMPORT THE SAME** when their outcomes agree, and what is left out imports nothing. -/
theorem imports_ofOutcomes_of_agree
    (hforget : ∀ m : Method, (forget m).imports models = m.imports models) :
    (ofOutcomes models issues walk outcome).imports
      = (ofOutcomes models issues' walk outcome').imports := by
  have himports : ∀ l : List Method,
      l.flatMap (·.imports models) = (l.map forget).flatMap (·.imports models) := by
    intro l
    rw [List.flatMap_map]
    exact List.flatMap_congr fun m _ => (hforget m).symm
  have hmethods := map_methods_ofOutcomes h models models issues issues'
  show (List.flatMap _ (ofOutcomes models issues walk outcome).methods).eraseDups
    = (List.flatMap _ (ofOutcomes models issues' walk outcome').methods).eraseDups
  rw [himports, hmethods, ← himports]

end UpTo

/-- **THE METHODS OF TWO RUNS ARE RELATED**, position by position, when the outcomes of each
operation are. -/
theorem forall₂_methods_ofOutcomes {R : Method → Method → Prop}
    (h : ∀ x ∈ walk, Option.Rel R (outcome x).toOption (outcome' x).toOption)
    (models models' : Models) (issues issues' : List Issue) :
    List.Forall₂ R (ofOutcomes models issues walk outcome).methods
      (ofOutcomes models' issues' walk outcome').methods := by
  show List.Forall₂ R (walk.filterMap fun x => (outcome x).toOption)
    (walk.filterMap fun x => (outcome' x).toOption)
  induction walk with
  | nil => exact .nil
  | cons x rest ih =>
    have hrest := ih fun y hy => h y (List.mem_cons_of_mem x hy)
    have hx := h x List.mem_cons_self
    rw [List.filterMap_cons, List.filterMap_cons]
    revert hx
    cases (outcome x).toOption <;> cases (outcome' x).toOption <;> intro hx <;> cases hx
    · exact hrest
    · rename_i hm
      exact .cons hm hrest

/-! Outcomes that are equal at one place. -/

section AtPlace

variable {place : String × Verb}
  (hplace : ∀ x ∈ walk, ∀ m, outcome x = .ok m → m.place = x.place)
  (hplace' : ∀ x ∈ walk, ∀ m, outcome' x = .ok m → m.place = x.place)
  (h : ∀ x ∈ walk, x.place = place → outcome x = outcome' x)
  (models models' : Models) (issues issues' : List Issue)
include hplace hplace' h

/-- **THE METHODS AT A PLACE** are those of the outcomes there. -/
theorem filter_methods_ofOutcomes :
    (ofOutcomes models issues walk outcome).methods.filter (·.place = place)
      = (ofOutcomes models' issues' walk outcome').methods.filter (·.place = place) := by
  show List.filter _ (List.filterMap _ walk) = List.filter _ (List.filterMap _ walk)
  rw [List.filter_filterMap, List.filter_filterMap]
  refine List.filterMap_congr fun x hx => ?_
  by_cases hxplace : x.place = place
  · rw [h x hx hxplace]
  · rw [Declared.filter_toOption_of_ne (hplace x hx) hxplace,
      Declared.filter_toOption_of_ne (hplace' x hx) hxplace]

/-- **THE ISSUES UNDER A PLACE** are those of the outcomes there. -/
theorem filter_issues_ofOutcomes :
    (ofOutcomes models issues walk outcome).issues.filter (Issue.isUnder place)
      = (ofOutcomes models' issues walk outcome').issues.filter (Issue.isUnder place) := by
  show List.filter _ (issues ++ List.flatMap _ walk) = List.filter _ (issues ++ List.flatMap _ walk)
  rw [List.filter_append, List.filter_append, List.filter_flatMap, List.filter_flatMap]
  refine congrArg (List.filter _ issues ++ ·) (List.flatMap_congr fun x hx => ?_)
  by_cases hxplace : x.place = place
  · rw [h x hx hxplace]
  · rw [Declared.filter_issues_of_ne (hplace x hx) hxplace,
      Declared.filter_issues_of_ne (hplace' x hx) hxplace]

end AtPlace

end Compilation

end TwoRuns

/-- Two runs END ALIKE: both fail for the same reason, or both yield compilations that are
    related. -/
def EndAlike (R : Compilation → Compilation → Prop) :
    Except Document.CompileError Compilation → Except Document.CompileError Compilation → Prop
  | .ok out, .ok out' => R out out'
  | .error e, .error e' => e = e'
  | .ok _, .error _ => False
  | .error _, .ok _ => False

/-- Documents with the same paths end alike when the compilations of their walks are related. -/
theorem endAlike_of_paths {R : Compilation → Compilation → Prop} {d d' : Document}
    {models models' : Models} {options options' : Options} (hpaths : d'.paths = d.paths)
    (h : ∀ ps, d.paths = some ps →
      R (.ofOutcomes models d.catalogIssues ps.declared (d.outcome models options))
        (.ofOutcomes models' d'.catalogIssues ps.declared (d'.outcome models' options'))) :
    EndAlike R (d.compile models options) (d'.compile models' options') := by
  cases hps : d.paths with
  | none =>
    rw [Document.compile_of_no_paths hps, Document.compile_of_no_paths (hpaths.trans hps)]
    rfl
  | some ps =>
    rw [Document.compile_eq_ofOutcomes d ps models options hps,
      Document.compile_eq_ofOutcomes d' ps models' options' (hpaths.trans hps)]
    exact h ps hps

end ApiMethods
