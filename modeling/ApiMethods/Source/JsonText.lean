/-
  ApiMethods.Source.JsonText — the tree of a JSON text.

  The grammar is strict: no comments, no trailing commas, no leading zeros, no control
  characters inside strings, nothing behind the value.  Whether a literal has a VALUE is
  another matter: a number beyond binary64 and a string with half a surrogate pair are
  well-formed, stay in the tree as unreadable scalars, and are a fault only where somebody
  reads them.
-/
import ApiMethods.Json.NumberLiteral
import ApiMethods.Source.Node

namespace ApiMethods.Source.JsonText

open ApiMethods.Json (NumberLiteral)

/-! ## §1. Strings -/

/-- The space between tokens. -/
def isSpace (c : Char) : Bool := c = ' ' || c = '\n' || c = '\t' || c = '\r'

/-- Drop the space in front of a token. -/
def skipSpace (cs : List Char) : List Char := cs.dropWhile isSpace

/-- The value of a hexadecimal digit. -/
def hexValue? (c : Char) : Option Nat :=
  if '0' ≤ c ∧ c ≤ '9' then some (c.toNat - 48)
  else if 'a' ≤ c ∧ c ≤ 'f' then some (c.toNat - 87)
  else if 'A' ≤ c ∧ c ≤ 'F' then some (c.toNat - 55)
  else none

/-- The number of four hexadecimal digits. -/
def hex4? (a b c d : Char) : Option Nat := do
  let a ← hexValue? a
  let b ← hexValue? b
  let c ← hexValue? c
  let d ← hexValue? d
  return ((a * 16 + b) * 16 + c) * 16 + d

/-- The first half of a surrogate pair. -/
def isHighSurrogate (u : Nat) : Bool := 0xD800 ≤ u && u < 0xDC00

/-- The second half of a surrogate pair. -/
def isLowSurrogate (u : Nat) : Bool := 0xDC00 ≤ u && u < 0xE000

/-- The character of a surrogate pair. -/
def pair (high low : Nat) : Char := Char.ofNat (0x10000 + (high - 0xD800) * 0x400 + (low - 0xDC00))

/-- The character of an escape of one letter. -/
def escaped? (c : Char) : Option Char :=
  if c = '"' ∨ c = '\\' ∨ c = '/' then some c
  else if c = 'b' then some '\x08'
  else if c = 'f' then some '\x0c'
  else if c = 'n' then some '\n'
  else if c = 'r' then some '\r'
  else if c = 't' then some '\t'
  else none

/-- What has been read of a string: its characters, last first, or none once an escape had no
    meaning; and the first half of a surrogate pair whose second half is due. -/
structure Read where
  chars : Option (List Char)
  high : Option Nat

namespace Read

/-- Nothing read so far. -/
def start : Read := ⟨some [], none⟩

/-- One more character.  Half a surrogate pair in front of it has no meaning. -/
def push (read : Read) (c : Char) : Read :=
  match read.high with
  | some _ => ⟨none, none⟩
  | none => ⟨read.chars.map (c :: ·), none⟩

/-- One more unit of an escape by number. -/
def unit (read : Read) (u : Nat) : Read :=
  match read.high with
  | some high =>
    if isLowSurrogate u then ⟨read.chars.map (pair high u :: ·), none⟩ else ⟨none, none⟩
  | none =>
    if isHighSurrogate u then ⟨read.chars, some u⟩
    else if isLowSurrogate u then ⟨none, none⟩
    else ⟨read.chars.map (Char.ofNat u :: ·), none⟩

/-- The scalar of a string that ends here. -/
def scalar (read : Read) : Scalar :=
  match read.chars, read.high with
  | some cs, none => .typed (.text (String.ofList cs.reverse))
  | _, _ => .unreadable

end Read

/-- A string behind its opening quote: what was read, and what follows the closing quote. -/
def stringBody (read : Read) : List Char → Option (Read × List Char)
  | [] => none
  | '"' :: rest => some (read, rest)
  | '\\' :: 'u' :: a :: b :: c :: d :: rest =>
    match hex4? a b c d with
    | some u => stringBody (read.unit u) rest
    | none => none
  | '\\' :: c :: rest =>
    match escaped? c with
    | some e => stringBody (read.push e) rest
    | none => none
  | c :: rest => if c.toNat < 0x20 then none else stringBody (read.push c) rest

/-- A string behind its opening quote. -/
def string? (cs : List Char) : Option (Scalar × List Char) :=
  (stringBody .start cs).map fun (read, rest) => (read.scalar, rest)

/-! ## §2. Numbers -/

/-- The digits in front of a text and what follows them. -/
def digits (cs : List Char) : List Char × List Char :=
  (cs.takeWhile Char.isDigit, cs.dropWhile Char.isDigit)

/-- The whole part of a number: a zero, or digits that do not start with one. -/
def wholePart? : List Char → Option (List Char × List Char)
  | '0' :: rest => some (['0'], rest)
  | cs => match digits cs with
    | ([], _) => none
    | found => some found

/-- The digits behind a point; none when there is no point. -/
def fractionPart? : List Char → Option (List Char × List Char)
  | '.' :: rest => match digits rest with
    | ([], _) => none
    | found => some found
  | cs => some ([], cs)

/-- The sign in front of an exponent. -/
def exponentSign : List Char → Bool × List Char
  | '-' :: rest => (true, rest)
  | '+' :: rest => (false, rest)
  | cs => (false, cs)

/-- An exponent; none when there is no `e`. -/
def exponentPart? : List Char → Option (Option (Bool × List Char) × List Char)
  | c :: rest =>
    if c = 'e' ∨ c = 'E' then
      let (down, rest) := exponentSign rest
      match digits rest with
      | ([], _) => none
      | (ds, rest) => some (some (down, ds), rest)
    else some (none, c :: rest)
  | [] => some (none, [])

/-- A number literal. -/
def numberLiteral? (cs : List Char) : Option (NumberLiteral × List Char) := do
  let (negative, cs) := match cs with
    | '-' :: rest => (true, rest)
    | _ => (false, cs)
  let (whole, cs) ← wholePart? cs
  let (fraction, cs) ← fractionPart? cs
  let (exponent, cs) ← exponentPart? cs
  return (⟨negative, whole, fraction, exponent⟩, cs)

/-- The scalar of a number literal. -/
def numberScalar (l : NumberLiteral) : Scalar :=
  match l.value? with
  | some n => .typed (.number n)
  | none => .unreadable

/-! ## §3. Values

  The number in front bounds the number of calls below; the length of the text is always
  enough, because every call reads at least one character. -/

mutual

/-- A value and what follows it. -/
def value? : Nat → List Char → Option (Node × List Char)
  | 0, _ => none
  | fuel + 1, cs =>
    match skipSpace cs with
    | '"' :: rest => do
      let (s, rest) ← string? rest
      return (.scalar s, rest)
    | '[' :: rest =>
      match skipSpace rest with
      | ']' :: rest => some (.list false [], rest)
      | rest => do
        let (items, rest) ← items? fuel rest
        return (.list false items, rest)
    | '{' :: rest =>
      match skipSpace rest with
      | '}' :: rest => some (.map false [], rest)
      | rest => do
        let (entries, rest) ← entries? fuel rest
        return (.map false entries, rest)
    | 'n' :: 'u' :: 'l' :: 'l' :: rest => some (.typed .null, rest)
    | 't' :: 'r' :: 'u' :: 'e' :: rest => some (.typed (.bool true), rest)
    | 'f' :: 'a' :: 'l' :: 's' :: 'e' :: rest => some (.typed (.bool false), rest)
    | cs => do
      let (l, rest) ← numberLiteral? cs
      return (.scalar (numberScalar l), rest)

/-- One or more items up to the closing bracket. -/
def items? : Nat → List Char → Option (List Node × List Char)
  | 0, _ => none
  | fuel + 1, cs => do
    let (n, rest) ← value? fuel cs
    match skipSpace rest with
    | ',' :: rest => do
      let (items, rest) ← items? fuel rest
      return (n :: items, rest)
    | ']' :: rest => return ([n], rest)
    | _ => none

/-- One or more entries up to the closing brace. -/
def entries? : Nat → List Char → Option (List (Node × Node) × List Char)
  | 0, _ => none
  | fuel + 1, cs => do
    match skipSpace cs with
    | '"' :: rest => do
      let (key, rest) ← string? rest
      match skipSpace rest with
      | ':' :: rest => do
        let (n, rest) ← value? fuel rest
        match skipSpace rest with
        | ',' :: rest => do
          let (entries, rest) ← entries? fuel rest
          return ((.scalar key, n) :: entries, rest)
        | '}' :: rest => return ([(.scalar key, n)], rest)
        | _ => none
      | _ => none
    | _ => none

end

/-- The tree of a text. -/
def node? (s : String) : Option Node := do
  let cs := s.toList
  let (n, rest) ← value? (2 * cs.length + 1) cs
  match skipSpace rest with
  | [] => return n
  | _ => none

end ApiMethods.Source.JsonText
