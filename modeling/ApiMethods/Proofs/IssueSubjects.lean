/-
  ApiMethods.Proofs.IssueSubjects
  ───────────────────────────────
  **WHAT AN ISSUE IS ABOUT CAN BE TOLD FROM ITS POINTER.**

  The subject of an issue is a scheme, under the home of the schemes and its name, or an operation,
  under its path and its verb.  The pointer of the issue follows the keys of the subject, and
  sometimes one more:

      scheme       securityDefinitions, name         or components, securitySchemes, name
      operation    paths, path, verb                 and then security or requestBody

  A pointer is read back as its keys, whatever tildes and slashes they contain (`decode?_ofKeys`), and
  the keys of one subject never begin as those of another (`Contains.eq_of_append`).  So issues with
  different subjects never share a pointer, not even when they come from two documents.
-/
import ApiMethods.Proofs.Imports
import ApiMethods.Proofs.IssuePointers

namespace ApiMethods

/-! ## §1. Subjects. -/

namespace Issue

/-- What an issue is about. -/
inductive Subject
  | scheme (home : List String) (name : String)
  | operation (path : String) (verb : Verb)
deriving Repr, DecidableEq

/-- The keys that lead to a subject. -/
def Subject.keys : Subject → List String
  | scheme home name => home ++ [name]
  | operation path verb => operationKeys path verb

/-- The subject of an issue. -/
def subject : Issue → Subject
  | schemeIgnored home name _ => .scheme home name
  | skipped path verb _ => .operation path verb
  | alternativesIgnored path verb _ => .operation path verb
  | schemeUndeclared path verb _ => .operation path verb
  | bodyApproximated path verb _ => .operation path verb

/-- An issue points at its subject or at a part of it. -/
theorem exists_keys_eq (i : Issue) : ∃ part, i.keys = i.subject.keys ++ part := by
  cases i with
  | schemeIgnored home name reason => exact ⟨[], (List.append_nil _).symm⟩
  | skipped path verb reason => exact ⟨[], (List.append_nil _).symm⟩
  | alternativesIgnored path verb count => exact ⟨["security"], rfl⟩
  | schemeUndeclared path verb name => exact ⟨["security"], rfl⟩
  | bodyApproximated path verb mediaType => exact ⟨["requestBody"], rfl⟩

end Issue

/-! ## §2. The subjects of a document. -/

namespace Document

open ApiMethods.Reference
open Issue (Subject)

/-- Whether a document has room for a subject: all its schemes have the same home. -/
def Contains (d : Document) : Subject → Prop
  | .scheme home _ => home = d.schemesHome
  | .operation _ _ => True

theorem schemesHome_cases (d : Document) :
    d.schemesHome = ["components", "securitySchemes"] ∨ d.schemesHome = ["securityDefinitions"] := by
  unfold schemesHome
  cases d.components3 with
  | none => exact .inr rfl
  | some c => exact .inl rfl

/-- The two homes differ in their first keys. -/
theorem schemesHome_eq_of_append {d d' : Document} {rest rest' : List String}
    (h : d.schemesHome ++ rest = d'.schemesHome ++ rest') : d.schemesHome = d'.schemesHome := by
  rcases d.schemesHome_cases with hd | hd <;> rcases d'.schemesHome_cases with hd' | hd' <;>
    rw [hd, hd'] at h ⊢
  · have hhead := (List.cons.inj h).1
    exact absurd hhead (by decide)
  · have hhead := (List.cons.inj h).1
    exact absurd hhead (by decide)

/-- The schemes are not at home among the paths. -/
theorem schemesHome_append_ne_paths (d : Document) (rest rest' : List String) :
    d.schemesHome ++ rest ≠ "paths" :: rest' := by
  intro h
  rcases d.schemesHome_cases with hd | hd <;> rw [hd] at h
  · have hhead := (List.cons.inj h).1
    exact absurd hhead (by decide)
  · have hhead := (List.cons.inj h).1
    exact absurd hhead (by decide)

/-- **THE KEYS OF TWO SUBJECTS BEGIN DIFFERENTLY**, whatever follows them. -/
theorem Contains.eq_of_append {d d' : Document} {s s' : Subject} (h : d.Contains s)
    (h' : d'.Contains s') {part part' : List String} (heq : s.keys ++ part = s'.keys ++ part') :
    s = s' := by
  cases s with
  | scheme home name =>
    cases h
    cases s' with
    | scheme home' name' =>
      cases h'
      simp only [Subject.keys, List.append_assoc] at heq
      have hhome := schemesHome_eq_of_append heq
      rw [hhome] at heq ⊢
      have hname := (List.cons.inj (List.append_cancel_left heq)).1
      rw [hname]
    | operation path' verb' =>
      simp only [Subject.keys, List.append_assoc] at heq
      exact absurd heq (schemesHome_append_ne_paths d _ _)
  | operation path verb =>
    cases s' with
    | scheme home' name' =>
      cases h'
      simp only [Subject.keys, List.append_assoc] at heq
      exact absurd heq.symm (schemesHome_append_ne_paths d' _ _)
    | operation path' verb' =>
      simp only [Subject.keys, Issue.operationKeys, List.cons_append, List.nil_append,
        List.cons.injEq, true_and] at heq
      obtain ⟨hpath, hverb, -⟩ := heq
      rw [hpath, Verb.key_injective hverb]

theorem About.contains {d : Document} {i : Issue} {node : Option Json} (h : d.About i node) :
    d.Contains i.subject := by
  cases h with
  | scheme _ _ => rfl
  | operation _ _ => trivial
  | alternatives _ _ _ => trivial
  | unknown _ _ _ => trivial
  | body _ _ _ => trivial

/-- What a compilation reports is about subjects of the document. -/
theorem contains_of_mem_issues {d : Document} {models : Models} {options : Options}
    {out : Compilation} (h : d.compile models options = .ok out) {i : Issue} (hi : i ∈ out.issues) :
    d.Contains i.subject := by
  obtain ⟨ps, hps⟩ := exists_paths_of_compile h
  rw [compile_eq_ofOutcomes d ps models options hps] at h
  cases h
  rcases List.mem_append.mp hi with hi | hi
  · obtain ⟨node, habout⟩ := about_of_mem_catalogIssues hi
    exact habout.contains
  · obtain ⟨x, hx, hi⟩ := List.mem_flatMap.mp hi
    obtain ⟨node, habout⟩ := about_of_mem_issues ⟨ps, hps, hx⟩ hi
    exact habout.contains

/-! ## §3. Pointers. -/

/-- **POINTERS ARE UNAMBIGUOUS.**  Keys are escaped in two passes, and a pointer is read back as its
keys.  Issues with one pointer are about one subject, be they of one document or of two. -/
theorem pointers_unambiguous :
    (∀ key, Pointer.escape key
      = (key.toList.flatMap Pointer.escapeTilde).flatMap Pointer.escapeSlash) ∧
    (∀ keys, Pointer.decode? (Pointer.ofKeys keys) = some keys) ∧
    ∀ (d d' : Document) (models models' : Models) (options options' : Options)
      (out out' : Compilation),
      d.compile models options = .ok out → d'.compile models' options' = .ok out' →
        ∀ i ∈ out.issues, ∀ j ∈ out'.issues, i.pointer = j.pointer → i.subject = j.subject := by
  refine ⟨Pointer.escape_eq_passes, Pointer.decode?_ofKeys, ?_⟩
  intro d d' models models' options options' out out' h h' i hi j hj hpointer
  have hkeys : i.keys = j.keys := Pointer.ofKeys_injective hpointer
  obtain ⟨part, hpart⟩ := i.exists_keys_eq
  obtain ⟨part', hpart'⟩ := j.exists_keys_eq
  rw [hpart, hpart'] at hkeys
  exact (contains_of_mem_issues h hi).eq_of_append (contains_of_mem_issues h' hj) hkeys

/-- Two paths that differ in how a step is escaped, with operations that are left out. -/
def aisleDocument : Document where
  swagger := some "2.0"
  paths := some [
    ("/aisle/1", { operations := [(.get, {})] }),
    ("/aisle~11", { operations := [(.get, {})] })]

/-- Their pointers differ. -/
theorem pointers_unambiguous_aisleDocument :
    ∃ out i j, aisleDocument.compile .none {} = .ok out ∧ i ∈ out.issues ∧ j ∈ out.issues ∧
      i.subject = .operation "/aisle/1" .get ∧ j.subject = .operation "/aisle~11" .get ∧
      i.pointer = "#/paths/~1aisle~11/get" ∧ j.pointer = "#/paths/~1aisle~011/get" ∧
      i.pointer ≠ j.pointer := by
  let i : Issue := .skipped "/aisle/1" .get .missingOperationId
  let j : Issue := .skipped "/aisle~11" .get .missingOperationId
  obtain ⟨out, hout, hissues⟩ : ∃ out, aisleDocument.compile .none {} = .ok out ∧
      out.issues = [i, j] := ⟨_, rfl, by decide +kernel⟩
  have hi : i ∈ out.issues := by simp [hissues]
  have hj : j ∈ out.issues := by simp [hissues]
  refine ⟨out, i, j, hout, hi, hj, rfl, rfl, by decide +kernel, by decide +kernel, fun heq => ?_⟩
  have hsubject := pointers_unambiguous.2.2 _ _ _ _ _ _ _ _ hout hout i hi j hj heq
  exact absurd hsubject (by decide)

end Document

end ApiMethods
