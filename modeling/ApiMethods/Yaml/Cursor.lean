/-
  ApiMethods.Yaml.Cursor — a place in a YAML text.

  Whether a key may start, where a block ends and what a line break means all depend on
  lines and columns, so reading a YAML text moves a CURSOR that counts them.  This module
  has the classes of characters, the cursor, and the two moves every other reading is made
  of: over characters of one line, and over a line break.
-/

namespace ApiMethods.Yaml

/-! ## §1. Classes of characters -/

/-- The characters a YAML text may hold. -/
def isAllowed (c : Char) : Bool :=
  let n := c.toNat
  n = 0x9 || n = 0xA || n = 0xD || (0x20 ≤ n && n ≤ 0x7E) || n = 0x85 ||
    (0xA0 ≤ n && n ≤ 0xD7FF) || (0xE000 ≤ n && n ≤ 0xFFFD) || 0x10000 ≤ n

/-- Spaces and tabs. -/
def isBlank (c : Char) : Bool := c = ' ' || c = '\t'

/-- Line breaks, those of Unicode included. -/
def isBreak (c : Char) : Bool :=
  c = '\n' || c = '\r' || c = '\u0085' || c = '\u2028' || c = '\u2029'

/-- The characters of the names of anchors, tag handles and directives. -/
def isWord (c : Char) : Bool := c.isAlphanum || c = '_' || c = '-'

/-- Whether a character is one of the characters of a text. -/
def isOneOf (set : String) (c : Char) : Bool := set.toList.contains c

/-- Whether the text starts with a character that satisfies a condition. -/
def startsWith (p : Char → Bool) : List Char → Bool
  | c :: _ => p c
  | [] => false

/-- Whether a text ends here or goes on with a blank or a break. -/
def blankFollows : List Char → Bool
  | c :: _ => isBlank c || isBreak c
  | [] => true

/-- Whether a line ends here. -/
def lineEnds : List Char → Bool
  | c :: _ => isBreak c
  | [] => true

/-! ## §2. The cursor -/

/-- What is left to read, and where it starts. -/
structure Cursor where
  rest : List Char
  index : Nat
  line : Nat
  column : Nat
deriving Repr

namespace Cursor

/-- The beginning of a text. -/
def start (cs : List Char) : Cursor := ⟨cs, 0, 0, 0⟩

/-- Move over characters of the current line. -/
def advance (c : Cursor) (n : Nat) : Cursor := ⟨c.rest.drop n, c.index + n, c.line, c.column + n⟩

/-- Move over the characters in front that satisfy a condition, none of them a break. -/
def skipWhile (c : Cursor) (p : Char → Bool) : Cursor := c.advance (c.rest.takeWhile p).length

/-- The cursor behind a line break of some characters. -/
def nextLine (c : Cursor) (n : Nat) : Cursor := ⟨c.rest.drop n, c.index + n, c.line + 1, 0⟩

/-- A line break, as it counts in a scalar, and the cursor behind it. -/
def lineBreak? (c : Cursor) : Option (List Char × Cursor) :=
  match c.rest with
  | '\r' :: '\n' :: _ => some (['\n'], c.nextLine 2)
  | '\u2028' :: _ => some (['\u2028'], c.nextLine 1)
  | '\u2029' :: _ => some (['\u2029'], c.nextLine 1)
  | ch :: _ => if isBreak ch then some (['\n'], c.nextLine 1) else none
  | [] => none

/-- The cursor behind a line break, if there is one. -/
def skipBreak (c : Cursor) : Cursor :=
  match c.lineBreak? with
  | some (_, c) => c
  | none => c

/-- Whether a line starts here with the mark of the beginning or the end of a document. -/
def atDocumentMark (c : Cursor) : Bool :=
  c.column = 0 && match c.rest with
    | '-' :: '-' :: '-' :: rest => blankFollows rest
    | '.' :: '.' :: '.' :: rest => blankFollows rest
    | _ => false

/-- Skip blanks and a comment; then the line has to end. -/
def endLine? (c : Cursor) : Option Cursor :=
  let c := c.skipWhile isBlank
  let c := if startsWith (· = '#') c.rest then c.skipWhile (!isBreak ·) else c
  if lineEnds c.rest then some c.skipBreak else none

end Cursor

end ApiMethods.Yaml
