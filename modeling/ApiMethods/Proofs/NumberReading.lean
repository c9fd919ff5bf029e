/-
  ApiMethods.Proofs.NumberReading
  ───────────────────────────────
  **A NUMBER IS READ ALIKE WHATEVER FOLLOWS IT, AND WHOLE NUMBERS ARE READ BACK.**

  Each part of a number literal (its whole part, its fraction, its exponent) is a run of digits, and
  none of them can go on with a comma or a closing bracket.  So the literal in front of a longer
  text is the literal of the number alone (`numberLiteral?_append`).

  A number is LEGIBLE when its own text is read as the number.  The digits of a fraction are the
  shortest that denote it, but reading them rounds up to three times, and not every fraction comes
  back; whole numbers in range do (`legible_whole`).
-/
import Mathlib.Data.List.Basic
import Mathlib.Data.List.TakeWhile
import ApiMethods.Json.Text
import ApiMethods.Source.JsonText

namespace ApiMethods.Source.JsonText

open ApiMethods.Json (NumberLiteral)

/-! ## §1. What may follow a number. -/

/-- A text that a number cannot go on with: one that ends, or goes on behind a value. -/
def Ends (rest : List Char) : Prop := ∀ c ∈ rest.head?, c = ',' ∨ c = ']' ∨ c = '}'

theorem ends_nil : Ends [] := by simp [Ends]

theorem ends_comma (cs : List Char) : Ends (',' :: cs) := by simp [Ends]

theorem ends_bracket (cs : List Char) : Ends (']' :: cs) := by simp [Ends]

theorem ends_brace (cs : List Char) : Ends ('}' :: cs) := by simp [Ends]

section Ends

variable {rest : List Char} (h : Ends rest)
include h

/-! Each part of a number is read alike when the text goes on behind the number. -/

theorem digits_append (cs : List Char) :
    digits (cs ++ rest) = ((digits cs).1, (digits cs).2 ++ rest) := by
  induction cs with
  | nil =>
    cases rest with
    | nil => rfl
    | cons c rest =>
      have hc : c.isDigit = false := by
        rcases h c rfl with rfl | rfl | rfl <;> rfl
      simp [digits, hc]
  | cons c cs ih =>
    unfold digits at ih ⊢
    cases hc : c.isDigit with
    | false => simp [hc]
    | true => simpa [hc] using ih

theorem wholePart?_append (cs : List Char) :
    wholePart? (cs ++ rest) = (wholePart? cs).map (Prod.map id (· ++ rest)) := by
  cases cs with
  | nil =>
    cases rest with
    | nil => rfl
    | cons c rest => rcases h c rfl with rfl | rfl | rfl <;> rfl
  | cons c cs =>
    by_cases hc : c = '0'
    · subst hc
      rfl
    · have hdigits := digits_append h (c :: cs)
      rw [List.cons_append] at hdigits ⊢
      rw [wholePart?, wholePart?, hdigits]
      · rcases digits (c :: cs) with ⟨_ | _, _⟩ <;> rfl
      all_goals simp [hc]

theorem fractionPart?_append (cs : List Char) :
    fractionPart? (cs ++ rest) = (fractionPart? cs).map (Prod.map id (· ++ rest)) := by
  cases cs with
  | nil =>
    cases rest with
    | nil => rfl
    | cons c rest => rcases h c rfl with rfl | rfl | rfl <;> rfl
  | cons c cs =>
    by_cases hc : c = '.'
    · subst hc
      rw [List.cons_append, fractionPart?, fractionPart?, digits_append h]
      rcases digits cs with ⟨_ | _, _⟩ <;> rfl
    · rw [List.cons_append, fractionPart?, fractionPart?]
      · rfl
      all_goals simp [hc]

theorem exponentSign_append (cs : List Char) :
    exponentSign (cs ++ rest) = Prod.map id (· ++ rest) (exponentSign cs) := by
  cases cs with
  | nil =>
    cases rest with
    | nil => rfl
    | cons c rest => rcases h c rfl with rfl | rfl | rfl <;> rfl
  | cons c cs =>
    by_cases hminus : c = '-'
    · subst hminus
      rfl
    · by_cases hplus : c = '+'
      · subst hplus
        rfl
      · rw [List.cons_append, exponentSign, exponentSign]
        · rfl
        all_goals simp [hminus, hplus]

theorem exponentPart?_append (cs : List Char) :
    exponentPart? (cs ++ rest) = (exponentPart? cs).map (Prod.map id (· ++ rest)) := by
  cases cs with
  | nil =>
    cases rest with
    | nil => rfl
    | cons c rest => rcases h c rfl with rfl | rfl | rfl <;> rfl
  | cons c cs =>
    by_cases hc : c = 'e' ∨ c = 'E'
    · rw [List.cons_append, exponentPart?, exponentPart?, if_pos hc, if_pos hc,
        exponentSign_append h]
      rcases exponentSign cs with ⟨down, cs⟩
      dsimp only [Prod.map]
      rw [digits_append h]
      rcases digits cs with ⟨_ | _, _⟩ <;> rfl
    · rw [List.cons_append, exponentPart?, exponentPart?, if_neg hc, if_neg hc]
      rfl

end Ends

/-! ## §2. Literals. -/

/-- When each of two parts is read alike, so is the one behind the other. -/
theorem bind_append {α β : Type} {rest : List Char} (first : Option (α × List Char))
    {next : α × List Char → Option (β × List Char)}
    (h : ∀ a cs, next (a, cs ++ rest) = (next (a, cs)).map (Prod.map id (· ++ rest))) :
    (first.map (Prod.map id (· ++ rest)) >>= next)
      = (first >>= next).map (Prod.map id (· ++ rest)) := by
  cases first with
  | none => rfl
  | some found => exact h found.1 found.2

/-- The literal behind its sign. -/
def unsigned? (negative : Bool) (cs : List Char) : Option (NumberLiteral × List Char) :=
  wholePart? cs >>= fun w => fractionPart? w.2 >>= fun f => exponentPart? f.2 >>= fun e =>
    some (⟨negative, w.1, f.1, e.1⟩, e.2)

theorem numberLiteral?_minus (cs : List Char) :
    numberLiteral? ('-' :: cs) = unsigned? true cs := rfl

theorem numberLiteral?_of_ne {cs : List Char} (h : ∀ ds, cs ≠ '-' :: ds) :
    numberLiteral? cs = unsigned? false cs := by
  unfold numberLiteral?
  split
  rename_i heq
  split at heq
  · exact absurd rfl (h _)
  · cases heq
    rfl

theorem unsigned?_append {rest : List Char} (h : Ends rest) (negative : Bool) (cs : List Char) :
    unsigned? negative (cs ++ rest) = (unsigned? negative cs).map (Prod.map id (· ++ rest)) := by
  unfold unsigned?
  rw [wholePart?_append h]
  refine bind_append _ fun whole cs => ?_
  rw [fractionPart?_append h]
  refine bind_append _ fun fraction cs => ?_
  rw [exponentPart?_append h]
  exact bind_append _ fun exponent cs => rfl

/-- **A NUMBER IS READ ALIKE WHATEVER FOLLOWS IT.** -/
theorem numberLiteral?_append {rest : List Char} (h : Ends rest) (cs : List Char) :
    numberLiteral? (cs ++ rest) = (numberLiteral? cs).map (Prod.map id (· ++ rest)) := by
  by_cases hminus : ∃ ds, cs = '-' :: ds
  · obtain ⟨ds, rfl⟩ := hminus
    exact unsigned?_append h true ds
  · have hcs : ∀ ds, cs ≠ '-' :: ds := fun ds heq => hminus ⟨ds, heq⟩
    have hall : ∀ ds, cs ++ rest ≠ '-' :: ds := by
      intro ds heq
      cases cs with
      | nil =>
        rw [List.nil_append] at heq
        subst heq
        rcases h '-' rfl with heq | heq | heq <;> cases heq
      | cons c cs =>
        cases heq
        exact hcs cs rfl
    rw [numberLiteral?_of_ne hcs, numberLiteral?_of_ne hall]
    exact unsigned?_append h false cs

/-- A literal begins with a minus sign or a digit. -/
theorem exists_cons_of_numberLiteral? {cs : List Char} {found : NumberLiteral × List Char}
    (h : numberLiteral? cs = some found) :
    ∃ c ds, cs = c :: ds ∧ (c = '-' ∨ c.isDigit = true) := by
  cases cs with
  | nil => cases h
  | cons c ds =>
    refine ⟨c, ds, rfl, ?_⟩
    by_contra hc
    rw [not_or, Bool.not_eq_true] at hc
    have hzero : c ≠ '0' := by
      rintro rfl
      cases hc.2
    have hwhole : wholePart? (c :: ds) = none := by
      rw [wholePart?]
      · simp [digits, hc.2]
      · simpa using hzero
    rw [numberLiteral?_of_ne (by simpa using hc.1), unsigned?, hwhole] at h
    cases h

/-! ## §3. Legible numbers. -/

/-- A number is LEGIBLE when its text is read as the number. -/
def Legible (n : Number.Value) : Prop :=
  ∃ l, numberLiteral? (Json.numberText n) = some (l, []) ∧ l.value? = some n

theorem digitsValue_append (ds : List Char) (c : Char) :
    NumberLiteral.digitsValue (ds ++ [c])
      = 10 * NumberLiteral.digitsValue ds + NumberLiteral.digitValue c := by
  simp [NumberLiteral.digitsValue]

/-- The decimal digits of a number have its value, and do not begin with a zero unless they are
    one. -/
theorem toDigits_spec (n : Nat) :
    NumberLiteral.digitsValue (Nat.toDigits 10 n) = n ∧
      (n ≠ 0 → (Nat.toDigits 10 n).head? ≠ some '0') := by
  induction n using Nat.strongRecOn with
  | ind n ih =>
    by_cases hsmall : n < 10
    · rw [Nat.toDigits_of_lt_base hsmall]
      refine ⟨?_, by simp⟩
      simp [NumberLiteral.digitsValue, NumberLiteral.digitValue,
        Nat.toNat_digitChar_sub_48_of_lt_ten hsmall]
    · -- the digits of `n` are those of `n / 10` and one more
      obtain ⟨hvalue, hhead⟩ := ih (n / 10) (by omega)
      have hlast : n % 10 < 10 := Nat.mod_lt _ (by decide)
      rw [Nat.toDigits_of_base_le (by decide) (by omega), digitsValue_append, hvalue]
      refine ⟨?_, ?_⟩
      · rw [NumberLiteral.digitValue, Nat.toNat_digitChar_sub_48_of_lt_ten hlast]
        omega
      · intro _
        rw [List.head?_append_of_ne_nil _ Nat.toDigits_ne_nil]
        exact hhead (by omega)

theorem digits_toDigits (n : Nat) : digits (Nat.toDigits 10 n) = (Nat.toDigits 10 n, []) := by
  have hall : ∀ c ∈ Nat.toDigits 10 n, c.isDigit = true := fun c hc =>
    Nat.isDigit_of_mem_toDigits (by decide) (by decide) hc
  unfold digits
  rw [List.takeWhile_eq_self_iff.mpr hall, List.dropWhile_eq_nil_iff.mpr hall]

theorem unsigned?_toDigits (negative : Bool) (n : Nat) :
    unsigned? negative (Nat.toDigits 10 n)
      = some (⟨negative, Nat.toDigits 10 n, [], none⟩, []) := by
  have hwhole : wholePart? (Nat.toDigits 10 n) = some (Nat.toDigits 10 n, []) := by
    by_cases hn : n = 0
    · subst hn
      rfl
    · have hhead := (toDigits_spec n).2 hn
      have hdigits := digits_toDigits n
      have hne : Nat.toDigits 10 n ≠ [] := Nat.toDigits_ne_nil
      generalize Nat.toDigits 10 n = ds at hhead hdigits hne
      cases ds with
      | nil => exact absurd rfl hne
      | cons c ds =>
        rw [wholePart?, hdigits]
        simpa using hhead
  unfold unsigned?
  rw [hwhole]
  rfl

/-- **WHOLE NUMBERS IN RANGE ARE LEGIBLE.** -/
theorem legible_whole {n : Int} (h : Number.Value.inRange n = true) : Legible (.whole n) := by
  have hvalue := (toDigits_spec n.natAbs).1
  have hrange : -(2 : Int) ^ 63 ≤ n ∧ n < 2 ^ 64 := by
    unfold Number.Value.inRange at h
    rw [Bool.and_eq_true, decide_eq_true_eq, decide_eq_true_eq] at h
    exact h
  have hlimit : NumberLiteral.significandLimit = 2 ^ 64 - 1 := rfl
  by_cases hn : n < 0
  · refine ⟨⟨true, Nat.toDigits 10 n.natAbs, [], none⟩, ?_, ?_⟩
    · have htext : Json.numberText (.whole n) = '-' :: Nat.toDigits 10 n.natAbs := by
        show String.toList (if n < 0 then "-" ++ n.natAbs.repr else n.natAbs.repr) = _
        rw [if_pos hn, String.toList_append, Nat.toList_repr]
        rfl
      rw [htext, numberLiteral?_minus, unsigned?_toDigits]
    · unfold NumberLiteral.value?
      dsimp only
      have hsmall : n.natAbs ≤ Nat.pow 2 63 := by
        show n.natAbs ≤ 2 ^ 63
        omega
      rw [hvalue, if_pos ⟨rfl, rfl, by omega⟩, if_neg (by simp), if_pos ⟨by omega, hsmall⟩]
      congr 2
      omega
  · refine ⟨⟨false, Nat.toDigits 10 n.natAbs, [], none⟩, ?_, ?_⟩
    · have htext : Json.numberText (.whole n) = Nat.toDigits 10 n.natAbs := by
        show String.toList (if n < 0 then "-" ++ n.natAbs.repr else n.natAbs.repr) = _
        rw [if_neg hn, Nat.toList_repr]
      rw [htext, numberLiteral?_of_ne, unsigned?_toDigits]
      -- no digit is a minus sign
      intro ds heq
      have hminus : '-' ∈ Nat.toDigits 10 n.natAbs := by
        rw [heq]
        exact List.mem_cons_self
      cases Nat.isDigit_of_mem_toDigits (by decide) (by decide) hminus
    · unfold NumberLiteral.value?
      dsimp only
      rw [hvalue, if_pos ⟨rfl, rfl, by omega⟩, if_pos (by simp)]
      congr 2
      omega

end ApiMethods.Source.JsonText
