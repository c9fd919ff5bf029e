/-
  ApiMethods.Json.Text — the text of a JSON value.

  Two layouts share one treatment of strings and numbers: compact, without any space, and
  pretty, with two spaces per level.  A fraction is written in place from 1e-5 up to 1e16
  and with an exponent outside.
-/
import ApiMethods.Json.Basic

namespace ApiMethods.Json

/-! ## §1. Strings and numbers -/

/-- The digit of a number below sixteen. -/
def hexDigit (n : Nat) : Char :=
  if n < 10 then Char.ofNat (48 + n) else Char.ofNat (87 + n)

/-- A character inside a string: quotes, backslashes and control characters are escaped. -/
def escape (c : Char) : List Char :=
  if c = '"' then ['\\', '"']
  else if c = '\\' then ['\\', '\\']
  else if c = '\x08' then ['\\', 'b']
  else if c = '\x0c' then ['\\', 'f']
  else if c = '\n' then ['\\', 'n']
  else if c = '\r' then ['\\', 'r']
  else if c = '\t' then ['\\', 't']
  else if c.toNat < 0x20 then
    ['\\', 'u', '0', '0', hexDigit (c.toNat / 16), hexDigit (c.toNat % 16)]
  else [c]

/-- A string in quotes. -/
def quote (s : String) : List Char := '"' :: s.toList.flatMap escape ++ ['"']

/-- Fractions are written in place from 1e-5 up to 1e16; a positive exponent has its sign. -/
def floatStyle : Number.FloatStyle := ⟨-5, 15, "+"⟩

/-- The text of a number. -/
def numberText (n : Number.Value) : List Char := (n.write floatStyle).toList

/-! ## §2. The compact layout -/

mutual

/-- The characters of a value, without spaces. -/
def compactChars : Json → List Char
  | .null => ['n', 'u', 'l', 'l']
  | .bool true => ['t', 'r', 'u', 'e']
  | .bool false => ['f', 'a', 'l', 's', 'e']
  | .number n => numberText n
  | .text s => quote s
  | .list items => '[' :: compactItems items ++ [']']
  | .object entries => '{' :: compactEntries entries ++ ['}']

/-- Items separated by commas. -/
def compactItems : List Json → List Char
  | [] => []
  | [v] => compactChars v
  | v :: rest => compactChars v ++ ',' :: compactItems rest

/-- Entries separated by commas. -/
def compactEntries : List (String × Json) → List Char
  | [] => []
  | [(k, v)] => quote k ++ ':' :: compactChars v
  | (k, v) :: rest => quote k ++ ':' :: compactChars v ++ ',' :: compactEntries rest

end

/-- The text of a value, without spaces. -/
def compact (v : Json) : String := String.ofList (compactChars v)

/-! ## §3. The pretty layout -/

/-- A line break and the spaces of a level. -/
def lineAt (level : Nat) : List Char := '\n' :: List.replicate (2 * level) ' '

mutual

/-- The characters of a value that starts at a level; every item and entry has its own line. -/
def prettyChars (level : Nat) : Json → List Char
  | .list [] => ['[', ']']
  | .list items => '[' :: prettyItems (level + 1) items ++ lineAt level ++ [']']
  | .object [] => ['{', '}']
  | .object entries => '{' :: prettyEntries (level + 1) entries ++ lineAt level ++ ['}']
  | .null => ['n', 'u', 'l', 'l']
  | .bool true => ['t', 'r', 'u', 'e']
  | .bool false => ['f', 'a', 'l', 's', 'e']
  | .number n => numberText n
  | .text s => quote s

/-- Items, each on its line. -/
def prettyItems (level : Nat) : List Json → List Char
  | [] => []
  | [v] => lineAt level ++ prettyChars level v
  | v :: rest => lineAt level ++ prettyChars level v ++ ',' :: prettyItems level rest

/-- Entries, each on its line. -/
def prettyEntries (level : Nat) : List (String × Json) → List Char
  | [] => []
  | [(k, v)] => lineAt level ++ quote k ++ ':' :: ' ' :: prettyChars level v
  | (k, v) :: rest =>
    lineAt level ++ quote k ++ ':' :: ' ' :: prettyChars level v ++ ',' :: prettyEntries level rest

end

/-- The text of a value over several lines. -/
def pretty (v : Json) : String := String.ofList (prettyChars 0 v)

end ApiMethods.Json
