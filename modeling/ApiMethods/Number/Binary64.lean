/-
  ApiMethods.Number.Binary64 — finite binary64 numbers, exactly.

  A finite number is a sign, a whole mantissa and a power of two.  All arithmetic is done
  on whole numbers and rounded once, to the nearest representable number, ties to the even
  mantissa; there is no machine floating point anywhere, so every result can be computed
  inside a proof.
-/

namespace ApiMethods.Number

/-! ## §1. The numbers -/

/-- The number `(-1)^negative · mantissa · 2^exponent`.  Numbers built by rounding have
    `mantissa < 2^53`, and `mantissa ≥ 2^52` unless the exponent is the least one. -/
structure Binary64 where
  negative : Bool
  mantissa : Nat
  exponent : Int
deriving Repr, DecidableEq

namespace Binary64

/-- The least exponent: that of the subnormal numbers. -/
def leastExponent : Int := -1074

/-- The greatest exponent of a finite number. -/
def greatestExponent : Int := 971

/-- The two zeros. -/
def zero (negative : Bool) : Binary64 := ⟨negative, 0, leastExponent⟩

/-- Whether the number is one of the zeros. -/
def isZero (x : Binary64) : Bool := x.mantissa == 0

/-- The number with the other sign. -/
def neg (x : Binary64) : Binary64 := { x with negative := !x.negative }

/-! ## §2. Rounding a ratio -/

/-- The whole number nearest to `num / den`; a tie goes to the even one. -/
def roundDiv (num den : Nat) : Nat :=
  let q := num / den
  let r := num % den
  if 2 * r < den then q
  else if den < 2 * r then q + 1
  else if q % 2 = 0 then q else q + 1

/-- A ratio scaled by `2^(-e)`: numerator and denominator of `num / den / 2^e`. -/
def scaleDown (num den : Nat) (e : Int) : Nat × Nat :=
  if 0 ≤ e then (num, den * Nat.pow 2 e.toNat) else (num * Nat.pow 2 (-e).toNat, den)

/-- The greatest `e` with `2^e ≤ num / den`, for a positive ratio. -/
def floorLog2 (num den : Nat) : Int :=
  let e : Int := (num.log2 : Int) - den.log2
  let (n, d) := scaleDown num den e
  if d ≤ n then e else e - 1

/-- The number nearest to `± num / den`; `none` beyond the greatest finite number. -/
def ofRatio? (negative : Bool) (num den : Nat) : Option Binary64 :=
  if num = 0 then some (zero negative)
  else
    let e := max (floorLog2 num den - 52) leastExponent
    let (n, d) := scaleDown num den e
    let m := roundDiv n d
    let x : Binary64 :=
      if m = Nat.pow 2 53 then ⟨negative, Nat.pow 2 52, e + 1⟩ else ⟨negative, m, e⟩
    if greatestExponent < x.exponent then none else some x

/-- The number nearest to a whole number. -/
def ofNat? (negative : Bool) (n : Nat) : Option Binary64 := ofRatio? negative n 1

/-! ## §3. Arithmetic, rounded once -/

/-- A ratio of whole numbers with a power of two on top. -/
def ofScaledRatio? (negative : Bool) (num den : Nat) (e : Int) : Option Binary64 :=
  let (n, d) := scaleDown num den (-e)
  ofRatio? negative n d

/-- The rounded product. -/
def mul? (x y : Binary64) : Option Binary64 :=
  ofScaledRatio? (x.negative != y.negative) (x.mantissa * y.mantissa) 1 (x.exponent + y.exponent)

/-- The rounded quotient by a number other than zero. -/
def div? (x y : Binary64) : Option Binary64 :=
  ofScaledRatio? (x.negative != y.negative) x.mantissa y.mantissa (x.exponent - y.exponent)

/-! ## §4. Decimals -/

/-- The number nearest to `± digits · 10^exponent`; `none` beyond the greatest finite number.
    Between `2^l ≤ digits < 2^(l+1)` the power of ten of `digits` is at least `3l/10` and at most
    `4l/10 + 1`, which decides decimals far outside the range by their size alone. -/
def ofDecimal? (negative : Bool) (digits : Nat) (exponent : Int) : Option Binary64 :=
  if digits = 0 then some (zero negative)
  else if exponent + (4 * digits.log2 / 10 + 1 : Nat) < -400 then some (zero negative)
  else if 400 < exponent + (3 * digits.log2 / 10 : Nat) then none
  else if 0 ≤ exponent then ofRatio? negative (digits * Nat.pow 10 exponent.toNat) 1
  else ofRatio? negative digits (Nat.pow 10 (-exponent).toNat)

end Binary64

end ApiMethods.Number
