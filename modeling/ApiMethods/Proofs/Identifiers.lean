/-
  ApiMethods.Proofs.Identifiers
  ─────────────────────────────
  **WHAT TRIMMING LEAVES, AND WHICH IDS MAKE AN IDENTIFIER.**

  White space is removed from both ends of a text and from nowhere else (`Text.trim_eq_iff`).
  What is left of an id becomes an identifier character by character.  An ASCII letter or digit
  stays what it is, every other character becomes `_`, and nothing but `_` is no identifier.  So
  all that counts is whether there is an ASCII letter or digit anywhere: the white space that is
  removed has none.
-/
import ApiMethods.Name.Identifier

namespace ApiMethods

/-! ## §1. White space at the ends. -/

namespace Text

/-- A text is another one without the white space at its ends: nothing else is taken away, and no
    white space is left there. -/
structure Trims (cs t : List Char) : Prop where
  taken : ∃ front back, cs = front ++ t ++ back ∧
    (∀ c ∈ front, isBlank c = true) ∧ ∀ c ∈ back, isBlank c = true
  head : ∀ c ∈ t.head?, isBlank c = false
  last : ∀ c ∈ t.getLast?, isBlank c = false

/-- What is removed from the front is white space. -/
theorem exists_front (cs : List Char) :
    ∃ front, cs = front ++ cs.dropWhile isBlank ∧ ∀ c ∈ front, isBlank c = true :=
  ⟨cs.takeWhile isBlank, List.takeWhile_append_dropWhile.symm,
    List.all_eq_true.mp List.all_takeWhile⟩

/-- What is left does not begin with white space. -/
theorem isBlank_head_dropWhile (cs : List Char) :
    ∀ c ∈ (cs.dropWhile isBlank).head?, isBlank c = false := by
  intro c hc
  have hhead := List.head?_dropWhile_not isBlank cs
  rw [Option.mem_def.mp hc] at hhead
  simpa using hhead

theorem dropWhile_isBlank_append {front t : List Char} (hfront : ∀ c ∈ front, isBlank c = true)
    (hhead : ∀ c ∈ t.head?, isBlank c = false) : (front ++ t).dropWhile isBlank = t := by
  rw [List.dropWhile_append_of_pos hfront]
  cases t with
  | nil => rfl
  | cons c rest => exact List.dropWhile_cons_of_neg (by simpa using hhead c rfl)

/-- **TRIMMING REMOVES THE WHITE SPACE AT BOTH ENDS**, and does nothing else. -/
theorem trim_eq_iff {cs t : List Char} : trim cs = t ↔ Trims cs t := by
  constructor
  · rintro rfl
    obtain ⟨front, hfront, hblank⟩ := exists_front cs
    generalize hrest : cs.dropWhile isBlank = rest at hfront
    obtain ⟨back, hback, hblank'⟩ := exists_front rest.reverse
    have htrim : trim cs = (rest.reverse.dropWhile isBlank).reverse := by rw [trim, hrest]
    have hsplit : rest = trim cs ++ back.reverse := by
      rw [htrim, ← List.reverse_append, ← hback, List.reverse_reverse]
    refine ⟨⟨front, back.reverse, ?_, hblank, ?_⟩, fun c hc => ?_, fun c hc => ?_⟩
    · rw [List.append_assoc, ← hsplit, hfront]
    · simpa using hblank'
    · -- the front of what is left is still there after the end has been trimmed
      have hhead : c ∈ rest.head? := by
        rw [hsplit, List.head?_append, Option.mem_def.mp hc]
        rfl
      rw [← hrest] at hhead
      exact isBlank_head_dropWhile cs c hhead
    · rw [htrim, List.getLast?_reverse] at hc
      exact isBlank_head_dropWhile rest.reverse c hc
  · rintro ⟨⟨front, back, rfl, hfront, hback⟩, hhead, hlast⟩
    cases t with
    | nil =>
      have hall : ∀ c ∈ front ++ [] ++ back, isBlank c = true := by
        simpa using fun c hc => hc.elim (hfront c) (hback c)
      have hnothing := dropWhile_isBlank_append hall (t := []) nofun
      rw [List.append_nil] at hnothing
      unfold trim
      rw [hnothing]
      rfl
    | cons c rest =>
      have hbegins : (front ++ (c :: rest) ++ back).dropWhile isBlank = c :: rest ++ back := by
        rw [List.append_assoc]
        exact dropWhile_isBlank_append hfront hhead
      have hends : ((c :: rest) ++ back).reverse.dropWhile isBlank = (c :: rest).reverse := by
        rw [List.reverse_append]
        refine dropWhile_isBlank_append (by simpa using hback) ?_
        rwa [List.head?_reverse]
      unfold trim
      rw [hbegins, hends, List.reverse_reverse]

end Text

namespace Name

/-! ## §2. ASCII letters and digits at the ends. -/

/-- The letters and digits of ASCII are three ranges of characters. -/
theorem isAlphanum_iff {c : Char} : c.isAlphanum = true ↔
    (48 ≤ c.toNat ∧ c.toNat ≤ 57) ∨ (65 ≤ c.toNat ∧ c.toNat ≤ 90) ∨
      (97 ≤ c.toNat ∧ c.toNat ≤ 122) := by
  change ((decide (65 ≤ c.val ∧ c.val ≤ 90) || (decide (97 ≤ c.val) && decide (c.val ≤ 122))) ||
    (decide (48 ≤ c.val) && decide (c.val ≤ 57))) = true ↔ _
  simp only [Bool.or_eq_true, Bool.and_eq_true, decide_eq_true_eq, UInt32.le_iff_toNat_le]
  change ((65 ≤ c.toNat ∧ c.toNat ≤ 90) ∨ (97 ≤ c.toNat ∧ c.toNat ≤ 122)) ∨
    (48 ≤ c.toNat ∧ c.toNat ≤ 57) ↔ _
  omega

/-- An ASCII letter or digit is not white space. -/
theorem isBlank_of_isAlphanum {c : Char} (h : c.isAlphanum = true) : Text.isBlank c = false := by
  have hrange := isAlphanum_iff.mp h
  have hspace : c ≠ ' ' := by
    rintro rfl
    revert h
    decide
  have hascii : Text.isAscii c = true := by
    simp only [Text.isAscii, decide_eq_true_eq]
    omega
  simp only [Text.isBlank, hascii, if_true, Bool.or_eq_false_iff, beq_eq_false_iff_ne,
    Bool.and_eq_false_iff, decide_eq_false_iff_not]
  exact ⟨hspace, by omega⟩

/-- What is not white space survives the removal of white space from the front. -/
theorem mem_dropWhile_isBlank {c : Char} {cs : List Char} (h : Text.isBlank c = false) :
    c ∈ cs.dropWhile Text.isBlank ↔ c ∈ cs := by
  induction cs with
  | nil => rfl
  | cons d rest ih =>
    by_cases hd : Text.isBlank d
    · have hne : c ≠ d := by
        rintro rfl
        rw [h] at hd
        cases hd
      rw [List.dropWhile_cons_of_pos hd, ih]
      simp [hne]
    · rw [List.dropWhile_cons_of_neg hd]

theorem mem_trim {c : Char} {cs : List Char} (h : Text.isBlank c = false) :
    c ∈ Text.trim cs ↔ c ∈ cs := by
  rw [Text.trim, List.mem_reverse, mem_dropWhile_isBlank h, List.mem_reverse,
    mem_dropWhile_isBlank h]

/-! ## §3. Identifiers. -/

theorem identifierChar_eq_underscore {c : Char} : identifierChar c = '_' ↔ c.isAlphanum = false := by
  by_cases hc : c.isAlphanum
  · have hne : c ≠ '_' := by
      rintro rfl
      revert hc
      decide
    simp [identifierChar, isIdentifierChar, hc, hne]
  · by_cases hu : c = '_' <;> simp [identifierChar, isIdentifierChar, hc, hu]

/-- **AN ID MAKES NO IDENTIFIER WHEN IT HAS NO ASCII LETTER OR DIGIT**, and only then. -/
theorem identifier?_eq_none {s : String} :
    identifier? s = none ↔ s.toList.any Char.isAlphanum = false := by
  have hall : ((Text.trim s.toList).map identifierChar).all (· = '_') = true ↔
      ∀ c ∈ s.toList, c.isAlphanum = false := by
    simp only [List.all_eq_true, decide_eq_true_eq, List.forall_mem_map,
      identifierChar_eq_underscore]
    constructor
    · intro h c hc
      cases halnum : c.isAlphanum with
      | false => rfl
      | true =>
        rw [h c ((mem_trim (isBlank_of_isAlphanum halnum)).mpr hc)] at halnum
        cases halnum
    · intro h c hc
      cases halnum : c.isAlphanum with
      | false => rfl
      | true =>
        rw [h c ((mem_trim (isBlank_of_isAlphanum halnum)).mp hc)] at halnum
        cases halnum
  rw [List.any_eq_false]
  unfold identifier? identifierChars?
  simp only [Option.map_eq_none_iff, Bool.not_eq_true]
  split
  · rename_i h
    exact iff_of_true rfl (hall.mp h)
  · rename_i h
    exact iff_of_false nofun (mt hall.mpr h)

end Name

end ApiMethods
