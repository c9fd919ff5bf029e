/-
  ApiMethods.Json.NumberLiteral — the number that a JSON literal denotes.

  A literal without point and exponent that fits a 64-bit integer is that integer, except
  `-0`, which is the negative zero.  Every other literal is a fraction, computed in three
  steps that each round: the leading digits are collected into a 64-bit significand, the
  significand is rounded to binary64, and the result is multiplied or divided by a rounded
  power of ten.  The last digit may therefore differ from that of the nearest number.
-/
import ApiMethods.Number.Binary64
import ApiMethods.Number.Shortest

namespace ApiMethods.Json

open ApiMethods.Number (Binary64)

/-- A number as it is written.  `fraction` is empty when there is no point, `exponent` holds
    whether the exponent is negative and its digits. -/
structure NumberLiteral where
  negative : Bool
  whole : List Char
  fraction : List Char
  exponent : Option (Bool × List Char)
deriving Repr, DecidableEq

namespace NumberLiteral

/-! ## §1. Digits -/

/-- The value of a decimal digit. -/
def digitValue (c : Char) : Nat := c.toNat - 48

/-- The value of a row of decimal digits. -/
def digitsValue (ds : List Char) : Nat := ds.foldl (fun n c => 10 * n + digitValue c) 0

/-- The greatest significand. -/
def significandLimit : Nat := Nat.pow 2 64 - 1

/-- Append digits to a significand while it stays within the limit; the second component counts
    the digits that were taken. -/
def collect (s : Nat) : List Char → Nat × Nat
  | [] => (s, 0)
  | c :: rest =>
    let s' := 10 * s + digitValue c
    if significandLimit < s' then (s, 0)
    else
      let (t, taken) := collect s' rest
      (t, taken + 1)

/-! ## §2. Powers of ten -/

/-- The greatest power of ten that is a finite number. -/
def powerLimit : Nat := 308

/-- The number nearest to a power of ten within the limit. -/
def powerOfTen (n : Nat) : Binary64 := (Binary64.ofNat? false (Nat.pow 10 n)).getD (.zero false)

/-- Scale by a power of ten, in steps of the greatest power when the exponent is very small;
    `none` beyond the greatest finite number. -/
def scale? (x : Binary64) (e : Int) : Option Binary64 :=
  if x.isZero then some x
  else if 0 ≤ e then
    if e ≤ powerLimit then x.mul? (powerOfTen e.toNat) else none
  else if -powerLimit ≤ e then x.div? (powerOfTen (-e).toNat)
  else match x.div? (powerOfTen powerLimit) with
    | some y => scale? y (e + powerLimit)
    | none => none
termination_by (-e).toNat
decreasing_by simp only [powerLimit] at *; omega

/-! ## §3. The value -/

/-- The greatest exponent that is read digit by digit; a longer one decides the value alone. -/
def exponentLimit : Nat := Nat.pow 2 31 - 1

/-- The magnitude of a literal with a point, an exponent or too many digits. -/
def magnitude? (l : NumberLiteral) : Option Binary64 :=
  let (s, taken) := collect 0 l.whole
  let (s, takenAfter) := collect s l.fraction
  let shift : Int := (l.whole.length - taken : Nat) - (takenAfter : Int)
  match Binary64.ofNat? false s, l.exponent with
  | none, _ => none
  | some x, none => scale? x shift
  | some x, some (down, ds) =>
    let e := digitsValue ds
    if exponentLimit < e then
      if s ≠ 0 ∧ !down then none else some (.zero false)
    else scale? x (if down then shift - e else shift + e)

/-- The number a literal denotes; `none` beyond the greatest finite number. -/
def value? (l : NumberLiteral) : Option Number.Value :=
  let n := digitsValue l.whole
  if l.fraction.isEmpty ∧ l.exponent.isNone ∧ n ≤ significandLimit then
    if !l.negative then some (.whole n)
    else if 0 < n ∧ n ≤ Nat.pow 2 63 then some (.whole (-n))
    else (Binary64.ofNat? true n).map .fraction
  else l.magnitude?.map fun x => .fraction { x with negative := l.negative }

end NumberLiteral

end ApiMethods.Json
