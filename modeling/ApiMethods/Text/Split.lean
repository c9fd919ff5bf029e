/-
  ApiMethods.Text.Split — cutting a text at every separator.
-/

namespace ApiMethods.Text

/-- The parts between the separators; there is always one more of them than separators. -/
def splitOn (sep : Char) : List Char → List (List Char)
  | [] => [[]]
  | c :: rest =>
    if c = sep then [] :: splitOn sep rest
    else match splitOn sep rest with
      | first :: more => (c :: first) :: more
      | [] => [[c]]

theorem splitOn_ne_nil (sep : Char) (cs : List Char) : splitOn sep cs ≠ [] := by
  cases cs with
  | nil => simp [splitOn]
  | cons c rest =>
    simp only [splitOn]
    split
    · simp
    · split <;> simp

/-- A text without the separator is one part. -/
theorem splitOn_of_not_mem {sep : Char} {cs : List Char} (h : sep ∉ cs) :
    splitOn sep cs = [cs] := by
  induction cs with
  | nil => rfl
  | cons c rest ih =>
    simp only [List.mem_cons, not_or] at h
    simp [splitOn, ih h.2, Ne.symm h.1]

/-- The first part ends at the first separator. -/
theorem splitOn_append_cons {sep : Char} {cs rest : List Char} (h : sep ∉ cs) :
    splitOn sep (cs ++ sep :: rest) = cs :: splitOn sep rest := by
  induction cs with
  | nil => simp [splitOn]
  | cons c more ih =>
    simp only [List.mem_cons, not_or] at h
    simp [splitOn, ih h.2, Ne.symm h.1]

/-- What stands in front of the first separator, and what begins with it. -/
theorem span_append_cons {sep : Char} {cs : List Char} (h : sep ∉ cs) (rest : List Char) :
    (cs ++ sep :: rest).takeWhile (· != sep) = cs ∧
      (cs ++ sep :: rest).dropWhile (· != sep) = sep :: rest := by
  have hall : ∀ c ∈ cs, (c != sep) = true := by
    intro c hc
    simp only [bne_iff_ne, ne_eq]
    intro heq
    exact h (heq ▸ hc)
  constructor
  · rw [List.takeWhile_append_of_pos hall]
    simp
  · rw [List.dropWhile_append_of_pos hall]
    simp

/-- There is one way to cut a text at its first separator. -/
theorem append_cons_inj {sep : Char} {cs cs' rest rest' : List Char} (h : sep ∉ cs)
    (h' : sep ∉ cs') : cs ++ sep :: rest = cs' ++ sep :: rest' ↔ cs = cs' ∧ rest = rest' := by
  constructor
  · intro heq
    have htake := congrArg (List.takeWhile (· != sep)) heq
    have hdrop := congrArg (List.dropWhile (· != sep)) heq
    rw [(span_append_cons h rest).1, (span_append_cons h' rest').1] at htake
    rw [(span_append_cons h rest).2, (span_append_cons h' rest').2] at hdrop
    exact ⟨htake, List.tail_eq_of_cons_eq hdrop⟩
  · rintro ⟨rfl, rfl⟩
    rfl

/-- Cutting undoes joining when no part has the separator. -/
theorem splitOn_intercalate {sep : Char} {part : List Char} {parts : List (List Char)}
    (h : ∀ p ∈ part :: parts, sep ∉ p) :
    splitOn sep ([sep].intercalate (part :: parts)) = part :: parts := by
  induction parts generalizing part with
  | nil =>
    rw [List.intercalate_singleton]
    exact splitOn_of_not_mem (h part List.mem_cons_self)
  | cons next more ih =>
    obtain ⟨hpart, hmore⟩ := List.forall_mem_cons.mp h
    rw [List.intercalate_cons_cons, List.append_assoc, List.singleton_append,
      splitOn_append_cons hpart, ih hmore]

end ApiMethods.Text
