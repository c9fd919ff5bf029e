/-
  ApiMethods.Reference.Name — the name a local reference points at.

  A reference into the same document has the form `#/components/section/name` or
  `#/section/name`, where the section says what kind of definition is meant.  Schemas may
  also stand in the section `definitions`.  Everything else is no reference of that kind.
-/

namespace ApiMethods.Reference

/-! ## §1. Splitting a reference -/

/-- Why a text is no reference: it does not have the form, or it points into another section. -/
inductive Malformed
  | shape (target : String)
  | wrongSection (expected found target : String)
deriving Repr, DecidableEq

/-- The message of a malformed reference. -/
def Malformed.message : Malformed → String
  | .shape target => "invalid reference format: " ++ target
  | .wrongSection expected found target =>
    "invalid reference format: expected section '" ++ expected ++ "', got '" ++ found ++ "' in " ++
      target

/-- What follows a beginning, if the text starts with it. -/
def after? (beginning cs : List Char) : Option (List Char) :=
  if beginning.isPrefixOf cs then some (cs.drop beginning.length) else none

/-- The beginning of a reference into the shared definitions. -/
def componentsStart : String := "#/components/"

/-- The beginning of a reference into the document. -/
def rootStart : String := "#/"

/-- Section and name of a reference. -/
def split? (cs : List Char) : Option (List Char × List Char) := do
  let rest ← (after? componentsStart.toList cs).or (after? rootStart.toList cs)
  match rest.dropWhile (· != '/') with
  | _ :: name => some (rest.takeWhile (· != '/'), name)
  | [] => none

/-- Whether a section holds what is expected. -/
def holds (expected found : String) : Bool :=
  found = expected || (expected = "schemas" && found = "definitions")

/-- The name that a reference points at in a section. -/
def nameIn (expected target : String) : Except Malformed String :=
  match split? target.toList with
  | none => .error (.shape target)
  | some (found, name) =>
    if holds expected (String.ofList found) ∧ name ≠ [] ∧ '/' ∉ name then .ok (String.ofList name)
    else .error (.wrongSection expected (String.ofList found) target)

/-- The name that a reference points at in a section, if it does. -/
def name? (expected target : String) : Option String := (nameIn expected target).toOption

/-! ## §2. Spellings -/

/-- The references to a name in a section. -/
def spell (found name : String) : List String :=
  [componentsStart ++ found ++ "/" ++ name, rootStart ++ found ++ "/" ++ name]

/-- The references to a named schema. -/
def schemaSpellings (name : String) : List String :=
  spell "schemas" name ++ spell "definitions" name

theorem eq_of_after? {beginning cs rest : List Char} (h : after? beginning cs = some rest) :
    cs = beginning ++ rest := by
  unfold after? at h
  split at h
  · rename_i hp
    simp only [Option.some.injEq] at h
    rw [← h]
    exact (List.prefix_iff_eq_append.mp (List.isPrefixOf_iff_prefix.mp hp)).symm
  · simp at h

theorem dropWhile_eq_cons {cs name : List Char} {c : Char}
    (h : cs.dropWhile (· != '/') = c :: name) : cs = cs.takeWhile (· != '/') ++ '/' :: name := by
  have hc : c = '/' := by
    have := List.head?_dropWhile_not (· != '/') cs
    rw [h] at this
    simpa using this
  subst hc
  rw [← h, List.takeWhile_append_dropWhile]

/-- A reference is spelled from its section and its name. -/
theorem eq_of_split? {cs found name : List Char} (h : split? cs = some (found, name)) :
    cs = componentsStart.toList ++ found ++ '/' :: name ∨
      cs = rootStart.toList ++ found ++ '/' :: name := by
  unfold split? at h
  simp only [Option.bind_eq_bind, Option.bind_eq_some_iff] at h
  obtain ⟨rest, hrest, h⟩ := h
  have hsplit : rest = found ++ '/' :: name := by
    split at h
    · rename_i c n hd
      simp only [Option.some.injEq, Prod.mk.injEq] at h
      obtain ⟨rfl, rfl⟩ := h
      exact dropWhile_eq_cons hd
    · simp at h
  subst hsplit
  rcases Option.or_eq_some_iff.mp hrest with hc | ⟨-, hr⟩
  · exact .inl (by simpa using eq_of_after? hc)
  · exact .inr (by simpa using eq_of_after? hr)

theorem toList_slash : "/".toList = ['/'] := by simp

/-- A reference to a name is one of its spellings. -/
theorem mem_spellings_of_nameIn {expected target name : String}
    (h : nameIn expected target = .ok name) :
    ∃ found, holds expected found = true ∧ target ∈ spell found name := by
  unfold nameIn at h
  split at h
  · simp at h
  · rename_i found n hs
    split at h
    · rename_i hok
      simp only [Except.ok.injEq] at h
      subst h
      refine ⟨String.ofList found, hok.1, ?_⟩
      simp only [spell, List.mem_cons, List.not_mem_nil, or_false, ← String.toList_inj,
        String.toList_append, String.toList_ofList, toList_slash, List.append_assoc,
        List.singleton_append]
      simpa only [List.append_assoc] using eq_of_split? hs
    · simp at h

/-- A reference to a named schema is one of four spellings. -/
theorem mem_schemaSpellings {target name : String} (h : name? "schemas" target = some name) :
    target ∈ schemaSpellings name := by
  have h : nameIn "schemas" target = .ok name := by
    unfold name? at h
    cases hn : nameIn "schemas" target with
    | error e => simp [hn, Except.toOption] at h
    | ok n => simpa [hn, Except.toOption] using h
  obtain ⟨found, hholds, hmem⟩ := mem_spellings_of_nameIn h
  simp only [holds, Bool.or_eq_true, decide_eq_true_eq, Bool.and_eq_true] at hholds
  rcases hholds with rfl | ⟨-, rfl⟩
  · exact List.mem_append_left _ hmem
  · exact List.mem_append_right _ hmem

end ApiMethods.Reference
