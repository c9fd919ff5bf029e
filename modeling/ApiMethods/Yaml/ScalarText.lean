/-
  ApiMethods.Yaml.ScalarText — the text of a scalar, in each of its notations.

  Plain and quoted scalars may run over several lines, and then line breaks FOLD: a single
  break counts as a space, and of several the first is dropped.  Block scalars have an
  indentation, found on their first line or given in their header, and keep or fold their
  breaks; their header also says what becomes of the breaks at the end.

  Each reading starts at a cursor and ends with the text and the cursor behind it; `none`
  means that the notation is broken.  The number `fuel` exceeds the characters left.
-/
import ApiMethods.Yaml.Cursor

namespace ApiMethods.Yaml

/-! ## §1. Gaps between words -/

/-- What stands between two words of a plain or quoted scalar: the blanks in front of the first
    break (last first), whether a line has ended, the first break and the breaks behind it. -/
structure Gap where
  blanks : List Char
  broken : Bool
  first : List Char
  more : List Char
deriving Repr

namespace Gap

/-- Nothing. -/
def empty : Gap := ⟨[], false, [], []⟩

/-- A line break that does not count. -/
def escaped : Gap := ⟨[], true, [], []⟩

/-- One more line break. -/
def breakLine (g : Gap) (text : List Char) : Gap :=
  if g.broken then { g with more := g.more ++ text } else ⟨[], true, text, []⟩

/-- The text a gap counts for. -/
def text (g : Gap) : List Char :=
  if !g.broken then g.blanks.reverse
  else if g.first = ['\n'] then if g.more.isEmpty then [' '] else g.more
  else g.first ++ g.more

/-- Read blanks and breaks.  A tab may not stand in the indentation of a later line, left of
    column `indent`. -/
def read (indent : Int) : Nat → Gap → Cursor → Option (Gap × Cursor)
  | 0, _, _ => none
  | fuel + 1, g, c =>
    match c.rest with
    | [] => some (g, c)
    | ch :: _ =>
      if isBlank ch then
        if !g.broken then read indent fuel { g with blanks := ch :: g.blanks } (c.advance 1)
        else if ch = '\t' ∧ (c.column : Int) < indent then none
        else read indent fuel g (c.advance 1)
      else match c.lineBreak? with
        | some (text, c) => read indent fuel (g.breakLine text) c
        | none => some (g, c)

end Gap

/-! ## §2. Plain scalars -/

/-- The characters that follow a colon in a flow collection in vain. -/
def isFlowMark (c : Char) : Bool := isOneOf ",?[]\x7b\x7d" c

/-- The characters that end a plain scalar in a flow collection. -/
def endsFlowScalar (c : Char) : Bool := isOneOf ",[]\x7b\x7d" c

/-- The word of a plain scalar in front of a text, up to a blank or an indicator. -/
def plainWord (flow : Bool) : List Char → Option (List Char)
  | [] => some []
  | ch :: rest =>
    if isBlank ch ∨ isBreak ch then some []
    else if flow ∧ ch = ':' ∧ startsWith isFlowMark rest then none
    else if (ch = ':' ∧ blankFollows rest) ∨ (flow ∧ endsFlowScalar ch) then some []
    else (plainWord flow rest).map (ch :: ·)

/-- The words of a plain scalar behind a gap: text, whether the scalar ends behind a line break,
    and the cursor.  Outside flow collections a line left of column `indent` ends the scalar. -/
def plainWords (flow : Bool) (indent : Int) :
    Nat → List Char → Gap → Cursor → Option (List Char × Bool × Cursor)
  | 0, _, _, _ => none
  | fuel + 1, text, g, c =>
    if c.atDocumentMark ∨ startsWith (· = '#') c.rest then some (text, g.broken, c)
    else match plainWord flow c.rest with
      | none => none
      | some [] => some (text, g.broken, c)
      | some word =>
        let text := text ++ g.text ++ word
        let c := c.advance word.length
        if startsWith (fun ch => isBlank ch || isBreak ch) c.rest then
          match Gap.read indent fuel .empty c with
          | none => none
          | some (g, c) =>
            if !flow ∧ (c.column : Int) < indent then some (text, g.broken, c)
            else plainWords flow indent fuel text g c
        else some (text, false, c)

/-- A plain scalar. -/
def plainScalar (flow : Bool) (indent : Int) (fuel : Nat) (c : Cursor) :
    Option (List Char × Bool × Cursor) :=
  plainWords flow indent fuel [] .empty c

/-! ## §3. Quoted scalars -/

/-- The character of an escape of one letter. -/
def letterEscape? (c : Char) : Option Char :=
  [('0', '\x00'), ('a', '\x07'), ('b', '\x08'), ('t', '\t'), ('\t', '\t'), ('n', '\n'),
    ('v', '\x0b'), ('f', '\x0c'), ('r', '\r'), ('e', '\x1b'), (' ', ' '), ('"', '"'),
    ('/', '/'), ('\\', '\\'), ('N', '\u0085'), ('_', '\u00a0'), ('L', '\u2028'),
    ('P', '\u2029')].lookup c

/-- How many digits an escape by number has. -/
def escapeLength? (c : Char) : Option Nat := [('x', 2), ('u', 4), ('U', 8)].lookup c

/-- The value of a hexadecimal digit. -/
def hexValue? (c : Char) : Option Nat :=
  if c.isDigit then some (c.toNat - 48)
  else if 'a' ≤ c ∧ c ≤ 'f' then some (c.toNat - 87)
  else if 'A' ≤ c ∧ c ≤ 'F' then some (c.toNat - 55)
  else none

/-- The value of exactly this many hexadecimal digits in front of a text. -/
def hexNumber? (value : Nat) : Nat → List Char → Option Nat
  | 0, _ => some value
  | n + 1, c :: rest => (hexValue? c).bind fun d => hexNumber? (16 * value + d) n rest
  | _ + 1, [] => none

/-- The character with a code, unless the code is half a surrogate pair or too great. -/
def charOfCode? (n : Nat) : Option Char :=
  if (0xD800 ≤ n ∧ n < 0xE000) ∨ 0x10FFFF < n then none else some (Char.ofNat n)

/-- The character of an escape, given what follows the backslash, and the length of the escape
    with its backslash. -/
def escape? : List Char → Option (Char × Nat)
  | [] => none
  | c :: rest => match letterEscape? c, escapeLength? c with
    | some e, _ => some (e, 2)
    | none, some n => do
      let e ← hexNumber? 0 n rest >>= charOfCode?
      return (e, n + 2)
    | none, none => none

/-- A scalar in double quotes, behind the opening quote; `text` is reversed. -/
def doubleQuoted : Nat → List Char → Cursor → Option (List Char × Cursor)
  | 0, _, _ => none
  | fuel + 1, text, c =>
    if c.atDocumentMark then none
    else match c.rest with
      | [] => none
      | '"' :: _ => some (text.reverse, c.advance 1)
      | '\\' :: rest =>
        if startsWith isBreak rest then do
          let (g, c) ← Gap.read 0 fuel .escaped (c.advance 1).skipBreak
          doubleQuoted fuel (g.text.reverse ++ text) c
        else do
          let (e, n) ← escape? rest
          doubleQuoted fuel (e :: text) (c.advance n)
      | ch :: _ =>
        if isBlank ch ∨ isBreak ch then do
          let (g, c) ← Gap.read 0 fuel .empty c
          doubleQuoted fuel (g.text.reverse ++ text) c
        else doubleQuoted fuel (ch :: text) (c.advance 1)

/-- A scalar in single quotes, behind the opening quote; `text` is reversed.  A quote inside is
    written twice. -/
def singleQuoted : Nat → List Char → Cursor → Option (List Char × Cursor)
  | 0, _, _ => none
  | fuel + 1, text, c =>
    if c.atDocumentMark then none
    else match c.rest with
      | [] => none
      | '\'' :: '\'' :: _ => singleQuoted fuel ('\'' :: text) (c.advance 2)
      | '\'' :: _ => some (text.reverse, c.advance 1)
      | ch :: _ =>
        if isBlank ch ∨ isBreak ch then do
          let (g, c) ← Gap.read 0 fuel .empty c
          singleQuoted fuel (g.text.reverse ++ text) c
        else singleQuoted fuel (ch :: text) (c.advance 1)

/-! ## §4. Block scalars -/

/-- What becomes of the line breaks at the end of a block scalar. -/
inductive Chomp
  | strip
  | clip
  | keep
deriving Repr, DecidableEq

/-- The header of a block scalar: its indentation, 0 when it has to be found, and its end. -/
structure BlockHeader where
  indent : Nat
  chomp : Chomp
deriving Repr

/-- A chomping mark. -/
def chompMark? : List Char → Option Chomp
  | '+' :: _ => some .keep
  | '-' :: _ => some .strip
  | _ => none

/-- An indentation mark, 0 when there is none; the digit zero is no mark. -/
def indentMark? : List Char → Option Nat
  | '0' :: _ => none
  | c :: _ => some (if c.isDigit then c.toNat - 48 else 0)
  | [] => some 0

/-- The header behind the indicator of a block scalar, and the cursor on the next line. -/
def blockHeader? (c : Cursor) : Option (BlockHeader × Cursor) :=
  match chompMark? c.rest with
  | some chomp => do
    let c := c.advance 1
    let indent ← indentMark? c.rest
    let c ← (if indent = 0 then c else c.advance 1).endLine?
    return (⟨indent, chomp⟩, c)
  | none => do
    let indent ← indentMark? c.rest
    let c := if indent = 0 then c else c.advance 1
    match (if indent = 0 then none else chompMark? c.rest) with
    | some chomp => do
      let c ← (c.advance 1).endLine?
      return (⟨indent, chomp⟩, c)
    | none => do
      let c ← c.endLine?
      return (⟨indent, .clip⟩, c)

/-- Read the indentation and the empty lines in front of a line with content.  `widest` is the
    greatest column reached so far. -/
def blockBreaks (indent : Nat) :
    Nat → Nat → List Char → Cursor → Option (Nat × List Char × Cursor)
  | 0, _, _, _ => none
  | fuel + 1, widest, breaks, c =>
    let spaces := (c.rest.takeWhile (· = ' ')).length
    let c := c.advance (if indent = 0 then spaces else min spaces (indent - c.column))
    let widest := max widest c.column
    if (indent = 0 ∨ c.column < indent) ∧ startsWith (· = '\t') c.rest then none
    else match c.lineBreak? with
      | some (text, c) => blockBreaks indent fuel widest (breaks ++ text) c
      | none => some (widest, breaks, c)

/-- How the lines of a block scalar are joined so far: the text, the break behind the last line,
    the empty lines behind that, and whether the last line started with a blank. -/
structure BlockLines where
  text : List Char
  last : List Char
  breaks : List Char
  blankStart : Bool
deriving Repr

/-- Join one more line. -/
def BlockLines.push (b : BlockLines) (folded : Bool) (line last breaks : List Char) : BlockLines :=
  let blank := startsWith isBlank line
  let joint :=
    if folded ∧ b.last = ['\n'] ∧ !b.blankStart ∧ !blank then
      if b.breaks.isEmpty then [' '] else []
    else b.last
  ⟨b.text ++ joint ++ b.breaks ++ line, last, breaks, blank⟩

/-- The text at the end. -/
def BlockLines.finish (b : BlockLines) : Chomp → List Char
  | .strip => b.text
  | .clip => b.text ++ b.last
  | .keep => b.text ++ b.last ++ b.breaks

/-- The lines of a block scalar whose indentation is known. -/
def blockLines (folded : Bool) (indent : Nat) :
    Nat → BlockLines → Cursor → Option (BlockLines × Cursor)
  | 0, _, _ => none
  | fuel + 1, b, c =>
    if c.column ≠ indent ∨ c.rest.isEmpty then some (b, c)
    else
      let line := c.rest.takeWhile (!isBreak ·)
      let c := c.advance line.length
      let (last, c) := c.lineBreak?.getD ([], c)
      match blockBreaks indent fuel 0 [] c with
      | none => none
      | some (_, breaks, c) => blockLines folded indent fuel (b.push folded line last breaks) c

/-- A block scalar behind its indicator, inside a block of indentation `outer`. -/
def blockScalar (folded : Bool) (outer : Int) (fuel : Nat) (c : Cursor) :
    Option (List Char × Cursor) := do
  let (header, c) ← blockHeader? c
  let given := if header.indent = 0 then 0 else (max outer 0).toNat + header.indent
  let (widest, breaks, c) ← blockBreaks given fuel 0 [] c
  let indent := if given = 0 then max (max widest (outer + 1).toNat) 1 else given
  let (b, c) ← blockLines folded indent fuel ⟨[], [], breaks, false⟩ c
  return (b.finish header.chomp, c)

end ApiMethods.Yaml
