/-
  ApiMethods.Yaml.Writer — the YAML text of a JSON value.

  Collections are written in block notation, the items of a list at the indentation of the
  key in front of them, and empty collections as `[]` and `\x7b\x7d`.  A text is plain where it
  can be; it is quoted when it would be read as something else or is not allowed as a plain
  scalar, and texts of several lines are written literally.
-/
import ApiMethods.Json.Basic
import ApiMethods.Yaml.Cursor
import ApiMethods.Yaml.Plain

namespace ApiMethods.Yaml.Writer

/-! ## §1. What a text contains -/

/-- Whether a character may be written as it is. -/
def isPrintable (c : Char) : Bool :=
  let n := c.toNat
  n = 0x0A || (0x20 ≤ n && n ≤ 0x7E) ||
    (0xA0 ≤ n && n ≠ 0xFEFF && n ≠ 0xFFFE && n ≠ 0xFFFF)

/-- Whether a text has a space followed by a break. -/
def spaceBeforeBreak : List Char → Bool
  | a :: b :: rest => (a = ' ' && isBreak b) || spaceBeforeBreak (b :: rest)
  | _ => false

/-- Whether a text has a break followed by a space. -/
def breakBeforeSpace : List Char → Bool
  | a :: b :: rest => (isBreak a && b = ' ') || breakBeforeSpace (b :: rest)
  | _ => false

/-- Whether a text begins or ends with a character of some kind. -/
def atEdge (p : Char → Bool) (cs : List Char) : Bool := cs.head?.any p || cs.getLast?.any p

/-- Whether a text begins like the mark of a document. -/
def beginsLikeMark : List Char → Bool
  | '-' :: '-' :: '-' :: _ => true
  | '.' :: '.' :: '.' :: _ => true
  | _ => false

/-- Whether the first character of a text means something in YAML. -/
def beginsWithIndicator : List Char → Bool
  | [] => false
  | c :: rest =>
    isOneOf "#,[]\x7b\x7d&*!|>'\"%@\x60" c || (isOneOf "?:-" c && blankFollows rest)

/-- Whether a later character of a text means something in YAML. -/
def hasIndicator : List Char → Bool
  | a :: b :: rest =>
    (b = ':' && blankFollows rest) || (b = '#' && (isBlank a || isBreak a)) ||
      hasIndicator (b :: rest)
  | _ => false

/-! ## §2. How a text is quoted -/

/-- The ways to write a text. -/
inductive Quoting
  | plain
  | single
  | double
  | literal
deriving Repr, DecidableEq

/-- Whether a text may be written plainly. -/
def plainAllowed (cs : List Char) : Bool :=
  !(atEdge (· = ' ') cs || cs.any isBreak || beginsLikeMark cs || beginsWithIndicator cs ||
    hasIndicator cs || cs.any (!isPrintable ·))

/-- Whether single quotes are allowed. -/
def singleAllowed (cs : List Char) : Bool :=
  !(breakBeforeSpace cs || spaceBeforeBreak cs || cs.any (!isPrintable ·))

/-- Whether a text may be written literally. -/
def literalAllowed (cs : List Char) : Bool :=
  !(cs.getLast?.any (· = ' ') || spaceBeforeBreak cs || cs.any (!isPrintable ·))

/-- Words that older readers take for truth values. -/
def oldWords : List String :=
  ["y", "Y", "yes", "Yes", "YES", "n", "N", "no", "No", "NO", "true", "True", "TRUE", "false",
    "False", "FALSE", "on", "On", "ON", "off", "Off", "OFF"]

/-- Whether a plain scalar would be read as something else than a text. -/
def isAmbiguous (s : String) : Bool :=
  oldWords.contains s || Plain.meaning s ≠ .text || Plain.isPaddedNumber s

/-- The quotes of a text. -/
def quoted (cs : List Char) : Quoting := if singleAllowed cs then .single else .double

/-- The way to write a text. -/
def quotingOf (s : String) : Quoting :=
  let cs := s.toList
  if oldWords.contains s then .single
  else if cs.contains '\n' then if literalAllowed cs then .literal else .double
  else if isAmbiguous s || !plainAllowed cs then quoted cs
  else .plain

/-! ## §3. Scalars -/

/-- A line break and the spaces of an indentation. -/
def lineAt (indent : Nat) : List Char := '\n' :: List.replicate indent ' '

/-- The lines of a text, each after its indentation.  `fresh` tells that a line begins. -/
def indented (indent : Nat) (fresh : Bool) : List Char → List Char
  | [] => []
  | c :: rest =>
    if isBreak c then c :: indented indent true rest
    else (if fresh then List.replicate indent ' ' else []) ++ c :: indented indent false rest

/-- A character between single quotes. -/
def singleChar (c : Char) : List Char := if c = '\'' then ['\'', '\''] else [c]

/-- The digit of a number below sixteen, a letter in upper case. -/
def hexDigit (n : Nat) : Char := if n < 10 then Char.ofNat (48 + n) else Char.ofNat (55 + n)

/-- The last hexadecimal digits of a number. -/
def hex (n : Nat) : Nat → List Char
  | 0 => []
  | digits + 1 => hex (n / 16) digits ++ [hexDigit (n % 16)]

/-- The letter of an escape of one letter. -/
def escapeLetter? (c : Char) : Option Char :=
  [('\x00', '0'), ('\x07', 'a'), ('\x08', 'b'), ('\t', 't'), ('\n', 'n'), ('\x0b', 'v'),
    ('\x0c', 'f'), ('\r', 'r'), ('\x1b', 'e'), ('"', '"'), ('\\', '\\'), ('\u0085', 'N'),
    ('\u2028', 'L'), ('\u2029', 'P')].lookup c

/-- A character as an escape. -/
def escape (c : Char) : List Char :=
  match escapeLetter? c with
  | some letter => ['\\', letter]
  | none =>
    let n := c.toNat
    if n ≤ 0xFF then '\\' :: 'x' :: hex n 2
    else if n ≤ 0xFFFF then '\\' :: 'u' :: hex n 4
    else '\\' :: 'U' :: hex n 8

/-- A character between double quotes. -/
def doubleChar (c : Char) : List Char :=
  if !isPrintable c || isBreak c || c = '"' || c = '\\' then escape c else [c]

/-- The mark for an indentation that the first line does not show. -/
def indentMark (cs : List Char) : List Char :=
  if cs.head?.any fun c => c = ' ' || isBreak c then ['2'] else []

/-- The mark for the breaks at the end: none stands for exactly one. -/
def chompMark (cs : List Char) : List Char :=
  match cs.reverse with
  | [] => ['-']
  | [c] => if isBreak c then ['+'] else ['-']
  | c :: d :: _ => if !isBreak c then ['-'] else if isBreak d then ['+'] else []

/-- A text without the break at its end, which the next line brings. -/
def withoutLastBreak (cs : List Char) : List Char :=
  if cs.getLast?.any isBreak then cs.dropLast else cs

/-- A text, with further lines at an indentation. -/
def text (indent : Nat) (s : String) : List Char :=
  let cs := s.toList
  match quotingOf s with
  | .plain => cs
  | .single =>
    '\'' :: (indented indent false cs).flatMap singleChar ++
      (if cs.getLast?.any isBreak then List.replicate indent ' ' else []) ++ ['\'']
  | .double => '"' :: cs.flatMap doubleChar ++ ['"']
  | .literal =>
    '|' :: indentMark cs ++ chompMark cs ++ '\n' :: indented indent true (withoutLastBreak cs)

/-- Fractions are written in place from 1e-5 up to 1e16. -/
def floatStyle : Number.FloatStyle := ⟨-5, 15, ""⟩

/-- A value without parts. -/
def leaf (indent : Nat) : Json → List Char
  | .null => ['n', 'u', 'l', 'l']
  | .bool true => ['t', 'r', 'u', 'e']
  | .bool false => ['f', 'a', 'l', 's', 'e']
  | .number n => (n.write floatStyle).toList
  | .text s => text indent s
  | .list _ => ['[', ']']
  | .object _ => ['\x7b', '\x7d']

/-! ## §4. Collections -/

/-- The longest key, in bytes, that may stand in front of its colon on one line. -/
def longestKey : Nat := 128

/-- Whether a key may stand in front of its colon on one line. -/
def isSimpleKey (k : String) : Bool := k.utf8ByteSize ≤ longestKey && !k.toList.any isBreak

/-- What a value stands behind: the colon of a key on the same line, or a mark of two characters. -/
inductive Lead
  | key
  | mark
deriving Repr, DecidableEq

/-- How an entry with some key leads to its value. -/
def Lead.ofKey (k : String) : Lead := if isSimpleKey k then .key else .mark

/-- What stands between a lead and its value. -/
def Lead.gap (indent : Nat) : Lead → Json → List Char
  | .mark, _ => []
  | .key, .list (_ :: _) => lineAt indent
  | .key, .object (_ :: _) => lineAt (indent + 2)
  | .key, _ => [' ']

/-- The indentation of the items of a list behind a lead. -/
def Lead.itemIndent (indent : Nat) : Lead → Nat
  | .mark => indent + 2
  | .key => indent

/-- A key with its lead. -/
def keyAt (indent : Nat) (k : String) : List Char :=
  match Lead.ofKey k with
  | .key => text (indent + 2) k ++ [':']
  | .mark => '?' :: ' ' :: text (indent + 2) k ++ lineAt indent ++ [':', ' ']

mutual

/-- A value behind a lead, inside a collection at an indentation. -/
def valueAt (indent : Nat) (lead : Lead) : Json → List Char
  | .list (v :: rest) => itemsAt (lead.itemIndent indent) (v :: rest)
  | .object (e :: rest) => entriesAt (indent + 2) (e :: rest)
  | v => leaf (indent + 2) v

/-- Items at an indentation. -/
def itemsAt (indent : Nat) : List Json → List Char
  | [] => []
  | [v] => '-' :: ' ' :: valueAt indent .mark v
  | v :: rest => '-' :: ' ' :: valueAt indent .mark v ++ lineAt indent ++ itemsAt indent rest

/-- Entries at an indentation. -/
def entriesAt (indent : Nat) : List (String × Json) → List Char
  | [] => []
  | [(k, v)] =>
    keyAt indent k ++ (Lead.ofKey k).gap indent v ++ valueAt indent (Lead.ofKey k) v
  | (k, v) :: rest =>
    keyAt indent k ++ (Lead.ofKey k).gap indent v ++ valueAt indent (Lead.ofKey k) v ++
      lineAt indent ++ entriesAt indent rest

end

/-- The lines of a value that is not inside another one. -/
def documentChars : Json → List Char
  | .list (v :: rest) => itemsAt 0 (v :: rest)
  | .object (e :: rest) => entriesAt 0 (e :: rest)
  | v => leaf 2 v

/-- The text of a value. -/
def write (v : Json) : String := String.ofList (documentChars v ++ ['\n'])

end ApiMethods.Yaml.Writer
