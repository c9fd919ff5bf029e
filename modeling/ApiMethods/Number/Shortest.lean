/-
  ApiMethods.Number.Shortest — the fewest decimal digits that read back.

  THE RULE.  Every decimal that lies in the interval of reals rounding to `x` reads back
  as `x`.  Of those, the text shows one with the fewest digits, and among these the one
  nearest to `x`.  On the grid of decimals with a given number of digits only the two
  neighbours of `x` can be the nearest, so it suffices to test these two on the grids of
  1, 2, …, 17 digits, in exact arithmetic.
-/
import ApiMethods.Number.Binary64

namespace ApiMethods.Number

/-- The decimal `digits · 10^exponent`. -/
structure Decimal where
  digits : Nat
  exponent : Int
deriving Repr, DecidableEq

/-- The same decimal without zeros at the end of its digits. -/
def Decimal.reduce (digits : Nat) (exponent : Int) : Decimal :=
  if h : digits ≠ 0 ∧ digits % 10 = 0 then reduce (digits / 10) (exponent + 1)
  else ⟨digits, exponent⟩
termination_by digits
decreasing_by omega

namespace Binary64

/-! ## §1. Comparing a decimal with a quarter of a last place -/

/-- Whether `d · 10^k ≤ b · 2^e`, decided on whole numbers. -/
def decimalLe (d : Nat) (k : Int) (b : Nat) (e : Int) : Bool :=
  d * Nat.pow 10 k.toNat * Nat.pow 2 (-e).toNat ≤ b * Nat.pow 2 e.toNat * Nat.pow 10 (-k).toNat

/-- Whether `b · 2^e ≤ d · 10^k`. -/
def leDecimal (b : Nat) (e : Int) (d : Nat) (k : Int) : Bool :=
  b * Nat.pow 2 e.toNat * Nat.pow 10 (-k).toNat ≤ d * Nat.pow 10 k.toNat * Nat.pow 2 (-e).toNat

/-- The end of the rounding interval below `x`, in quarters of the last place: half a place
    away, or a quarter where the next number below lies at half the distance. -/
def lowerEnd (x : Binary64) : Nat :=
  if x.mantissa = Nat.pow 2 52 ∧ leastExponent < x.exponent then 4 * x.mantissa - 1
  else 4 * x.mantissa - 2

/-- The end of the rounding interval above `x`, in quarters of the last place. -/
def upperEnd (x : Binary64) : Nat := 4 * x.mantissa + 2

/-- Whether `d · 10^k` rounds to `x`.  The ends belong to the interval of an even mantissa. -/
def readsBack (x : Binary64) (d : Nat) (k : Int) : Bool :=
  let e := x.exponent - 2
  if x.mantissa % 2 = 0 then leDecimal (lowerEnd x) e d k && decimalLe d k (upperEnd x) e
  else !decimalLe d k (lowerEnd x) e && !leDecimal (upperEnd x) e d k

/-! ## §2. The grids -/

/-- The greatest `p` with `10^p ≤ x`, for a number other than zero. -/
def floorLog10 (x : Binary64) : Int :=
  let guess := (((x.mantissa.log2 : Int) + x.exponent) * 30103).fdiv 100000
  if decimalLe 1 (guess + 1) x.mantissa x.exponent then guess + 1
  else if decimalLe 1 guess x.mantissa x.exponent then guess
  else guess - 1

/-- The whole part of `x / 10^k`. -/
def floorAt (x : Binary64) (k : Int) : Nat :=
  (x.mantissa * Nat.pow 2 x.exponent.toNat * Nat.pow 10 (-k).toNat) /
    (Nat.pow 10 k.toNat * Nat.pow 2 (-x.exponent).toNat)

/-- Whether the upper neighbour `(d + 1) · 10^k` is nearer than `d · 10^k`; of two equally near
    ones, the one with the even digits counts as nearer. -/
def upperNearer (x : Binary64) (d : Nat) (k : Int) : Bool :=
  let midBelow := decimalLe (2 * d + 1) k (2 * x.mantissa) x.exponent
  let midAbove := leDecimal (2 * x.mantissa) x.exponent (2 * d + 1) k
  midBelow && (!midAbove || d % 2 == 1)

/-- The neighbour of `x` on the grid of multiples of `10^k` that reads back, if one does. -/
def onGrid? (x : Binary64) (k : Int) : Option Decimal :=
  let d := floorAt x k
  match readsBack x d k && d != 0, readsBack x (d + 1) k with
  | true, true => some (.reduce (if upperNearer x d k then d + 1 else d) k)
  | true, false => some (.reduce d k)
  | false, true => some (.reduce (d + 1) k)
  | false, false => none

/-- The grids from 1 to 17 digits, coarsest first. -/
def grids (x : Binary64) : List Int :=
  (List.range 17).map fun (n : Nat) => floorLog10 x - (n : Int)

/-- The shortest decimal that reads back as the magnitude of `x`. -/
def shortest (x : Binary64) : Decimal :=
  if x.isZero then ⟨0, 0⟩
  else ((grids x).findSome? (onGrid? x)).getD ⟨0, 0⟩

end Binary64

/-! ## §3. Writing a decimal -/

/-- How a format writes fractions: the powers of ten between which the point is written in
    place, and the sign in front of a positive exponent. -/
structure FloatStyle where
  leastPositional : Int
  greatestPositional : Int
  positiveSign : String
deriving Repr, DecidableEq

namespace FloatStyle

/-- Digits with the point in place and at least one digit on either side. -/
def positional (digits : List Char) (exponent : Int) : List Char :=
  let point : Int := digits.length + exponent
  if 0 ≤ exponent then digits ++ List.replicate exponent.toNat '0' ++ ['.', '0']
  else if 0 < point then digits.take point.toNat ++ '.' :: digits.drop point.toNat
  else '0' :: '.' :: List.replicate (-point).toNat '0' ++ digits

/-- One digit, the others behind a point, and the exponent. -/
def scientific (style : FloatStyle) (digits : List Char) (exponent : Int) : List Char :=
  let power := digits.length + exponent - 1
  let sign := if power < 0 then ['-'] else style.positiveSign.toList
  let fraction := match digits.drop 1 with
    | [] => []
    | rest => '.' :: rest
  digits.take 1 ++ fraction ++ 'e' :: sign ++ (Nat.repr power.natAbs).toList

/-- The text of a number: its shortest decimal, in place or with an exponent. -/
def write (style : FloatStyle) (x : Binary64) : String :=
  let sign := if x.negative then ['-'] else []
  if x.isZero then String.ofList (sign ++ ['0', '.', '0'])
  else
    let d := x.shortest
    let digits := (Nat.repr d.digits).toList
    let power := digits.length + d.exponent - 1
    let body :=
      if style.leastPositional ≤ power ∧ power ≤ style.greatestPositional
      then positional digits d.exponent else style.scientific digits d.exponent
    String.ofList (sign ++ body)

end FloatStyle

/-! ## §4. Numbers of a document -/

/-- A number: a whole number of the 64-bit ranges, or a fraction. -/
inductive Value
  | whole (n : Int)
  | fraction (x : Binary64)
deriving Repr, DecidableEq

namespace Value

/-- Whole numbers run from the least signed to the greatest unsigned 64-bit number. -/
def inRange (n : Int) : Bool := -Int.pow 2 63 ≤ n && n < Int.pow 2 64

/-- The text of a number, fractions in the given style. -/
def write (style : FloatStyle) : Value → String
  | .whole n => if n < 0 then "-" ++ Nat.repr n.natAbs else Nat.repr n.natAbs
  | .fraction x => style.write x

end Value

end ApiMethods.Number
