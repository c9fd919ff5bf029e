/-
  ApiMethods.Yaml.Plain — what an unquoted YAML scalar stands for.

  A plain scalar is read as the first of these that fits: nothing, a truth value, a whole
  number, a fraction, and a text when none does.  Only a few spellings count: `yes` and
  `on` are texts, a number with a leading zero is a text, and so is `1_000`.
-/
import ApiMethods.Number.Shortest

namespace ApiMethods.Yaml.Plain

open ApiMethods.Number (Binary64)

/-! ## §1. Nothing and truth values -/

/-- The spellings of nothing, apart from the empty scalar. -/
def isNull (s : String) : Bool := s = "null" || s = "Null" || s = "NULL" || s = "~"

/-- The spellings of truth values. -/
def bool? (s : String) : Option Bool :=
  if s = "true" ∨ s = "True" ∨ s = "TRUE" then some true
  else if s = "false" ∨ s = "False" ∨ s = "FALSE" then some false
  else none

/-! ## §2. Digits -/

/-- The value of a digit in bases up to sixteen. -/
def digitValue? (base : Nat) (c : Char) : Option Nat :=
  let n :=
    if c.isDigit then c.toNat - 48
    else if 'a' ≤ c ∧ c ≤ 'f' then c.toNat - 87
    else if 'A' ≤ c ∧ c ≤ 'F' then c.toNat - 55
    else 16
  if n < base then some n else none

/-- The value of a row of digits that continues the number `n`. -/
def digitsFrom? (base n : Nat) : List Char → Option Nat
  | [] => some n
  | c :: rest => match digitValue? base c with
    | some d => digitsFrom? base (base * n + d) rest
    | none => none

/-- The value of a non-empty row of digits. -/
def digits? (base : Nat) : List Char → Option Nat
  | [] => none
  | cs => digitsFrom? base 0 cs

/-- Digits with a leading zero and at least one more: read as a text, not as a number. -/
def isPadded : List Char → Bool
  | '0' :: c :: rest => (c :: rest).all Char.isDigit
  | _ => false

/-! ## §3. Whole numbers -/

/-- A magnitude: `0x`, `0o` or `0b` with digits of that base, or decimal digits. -/
def magnitude? : List Char → Option Nat
  | '0' :: 'x' :: rest => digits? 16 rest
  | '0' :: 'o' :: rest => digits? 8 rest
  | '0' :: 'b' :: rest => digits? 2 rest
  | cs => if isPadded cs then none else digits? 10 cs

/-- A whole number with an optional sign. -/
def whole? : List Char → Option Int
  | '-' :: rest => (magnitude? rest).map fun n => -(n : Int)
  | '+' :: rest => (magnitude? rest).map fun n => (n : Int)
  | cs => (magnitude? cs).map fun n => (n : Int)

/-- Whole numbers up to 128 bits are numbers; longer ones are looked at as fractions. -/
def isWide (n : Int) : Bool := -Int.pow 2 127 ≤ n && n < Int.pow 2 128

/-! ## §4. Fractions -/

/-- The value of a row of decimal digits. -/
def decimalValue (ds : List Char) : Nat := ds.foldl (fun n c => 10 * n + (c.toNat - 48)) 0

/-- An exponent: a sign and at least one digit. -/
def exponent? (cs : List Char) : Option Int :=
  let (down, ds) := match cs with
    | '-' :: rest => (true, rest)
    | '+' :: rest => (false, rest)
    | _ => (false, cs)
  if ds.isEmpty ∨ !ds.all Char.isDigit then none
  else some (if down then -(decimalValue ds : Int) else decimalValue ds)

/-- A decimal fraction without a sign: digits with an optional point, at least one digit, and an
    optional exponent.  It has to be a finite number. -/
def decimal? (negative : Bool) (cs : List Char) : Option Binary64 :=
  let whole := cs.takeWhile Char.isDigit
  let (fraction, rest) := match cs.dropWhile Char.isDigit with
    | '.' :: r => (r.takeWhile Char.isDigit, r.dropWhile Char.isDigit)
    | r => ([], r)
  let exponent := match rest with
    | [] => some 0
    | c :: r => if c = 'e' ∨ c = 'E' then exponent? r else none
  if whole.isEmpty ∧ fraction.isEmpty then none
  else match exponent with
    | none => none
    | some e =>
      Binary64.ofDecimal? negative (decimalValue (whole ++ fraction)) (e - fraction.length)

/-- A fraction: a finite number, or one of the spellings of the numbers that are not. -/
inductive Fraction
  | finite (x : Binary64)
  | notFinite
deriving Repr, DecidableEq

/-- The spellings of infinity. -/
def isInfinity (s : String) : Bool := s = ".inf" || s = ".Inf" || s = ".INF"

/-- The spellings of the value that is no number. -/
def isNotANumber (s : String) : Bool := s = ".nan" || s = ".NaN" || s = ".NAN"

/-- A fraction with an optional sign. -/
def fraction? (s : String) : Option Fraction :=
  if isInfinity s ∨ isNotANumber s then some .notFinite
  else match s.toList with
    | '+' :: '+' :: _ => none
    | '+' :: '-' :: _ => none
    | '+' :: rest =>
      if isInfinity (String.ofList rest) then some .notFinite
      else (decimal? false rest).map .finite
    | '-' :: rest =>
      if isInfinity (String.ofList rest) then some .notFinite
      else (decimal? true rest).map .finite
    | cs => (decimal? false cs).map .finite

/-- Digits with a leading zero, behind an optional sign. -/
def isPaddedNumber (s : String) : Bool :=
  match s.toList with
  | '-' :: rest => isPadded rest
  | '+' :: rest => isPadded rest
  | cs => isPadded cs

/-! ## §5. The type of a plain scalar -/

/-- What a plain scalar stands for. -/
inductive Meaning
  | null
  | bool (b : Bool)
  | whole (n : Int)
  | fraction (x : Fraction)
  | text
deriving Repr, DecidableEq

/-- A whole number in the wide range, if the scalar spells one. -/
def wideWhole? (s : String) : Option Int := (whole? s.toList).filter isWide

/-- The first reading that fits. -/
def meaning (s : String) : Meaning :=
  if s.isEmpty ∨ isNull s then .null
  else match bool? s with
    | some b => .bool b
    | none => match wideWhole? s with
      | some n => .whole n
      | none =>
        if isPaddedNumber s then .text
        else match fraction? s with
          | some x => .fraction x
          | none => .text

end ApiMethods.Yaml.Plain
