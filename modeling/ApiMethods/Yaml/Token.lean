/-
  ApiMethods.Yaml.Token — the tokens of a YAML text.

  Indentation becomes brackets: a block collection has a start and an end token, like a
  collection in flow notation.  What makes the reading delicate is that a key shows itself
  only by the colon BEHIND it.  Wherever a key may begin its place is remembered, and when
  the colon comes the key token is put in front of that place; a place is forgotten when
  the line ends or 1024 characters have passed.
-/
import ApiMethods.Yaml.ScalarText

namespace ApiMethods.Yaml

/-! ## §1. Tokens -/

/-- The notation of a scalar. -/
inductive ScalarStyle
  | plain
  | quoted
  | literal
  | folded
deriving Repr, DecidableEq

/-- A token.  A tag consists of a handle, empty for a tag written in full, and a suffix. -/
inductive Token
  | version (major minor : Nat)
  | handle (name replacement : String)
  | documentStart
  | documentEnd
  | blockListStart
  | blockMapStart
  | blockEnd
  | flowListStart
  | flowListEnd
  | flowMapStart
  | flowMapEnd
  | blockEntry
  | flowEntry
  | key
  | value
  | alias (name : String)
  | anchor (name : String)
  | tag (handle suffix : String)
  | scalar (text : String) (style : ScalarStyle)
deriving Repr, DecidableEq

/-! ## §2. Names, tags and directives -/

/-- The name of an anchor or alias, behind its indicator. -/
def anchorName? (c : Cursor) : Option (String × Cursor) :=
  let name := c.rest.takeWhile isWord
  let c := c.advance name.length
  if !name.isEmpty ∧ (blankFollows c.rest ∨ startsWith (isOneOf "?:,]\x7d%@\x60") c.rest) then
    some (String.ofList name, c)
  else none

/-- The characters of a tag; those of the second row only between angle brackets. -/
def isTagChar (full : Bool) (c : Char) : Bool :=
  isWord c || isOneOf ";/?:@&=+$.%!~*'()" c || (full && isOneOf ",[]" c)

/-- How many bytes a character has in UTF-8, given the first of them. -/
def utf8Width? (byte : Nat) : Option Nat :=
  if byte < 0x80 then some 1
  else if byte < 0xC0 then none
  else if byte < 0xE0 then some 2
  else if byte < 0xF0 then some 3
  else if byte < 0xF8 then some 4
  else none

/-- A byte written as a percent escape. -/
def escapedByte? : List Char → Option (Nat × List Char)
  | '%' :: rest => (hexNumber? 0 2 rest).map fun byte => (byte, rest.drop 2)
  | _ => none

/-- The remaining bytes of a character, appended to its code. -/
def escapedTail? (code : Nat) : Nat → List Char → Option (Nat × List Char)
  | 0, cs => some (code, cs)
  | n + 1, cs => match escapedByte? cs with
    | some (byte, cs) =>
      if 0x80 ≤ byte ∧ byte < 0xC0 then escapedTail? (code * 64 + byte % 64) n cs else none
    | none => none

/-- A character written as percent escapes. -/
def escapedChar? (cs : List Char) : Option (Char × List Char) := do
  let (byte, cs) ← escapedByte? cs
  let width ← utf8Width? byte
  let lead := if width = 1 then byte else byte % Nat.pow 2 (7 - width)
  let (code, cs) ← escapedTail? lead (width - 1) cs
  let ch ← charOfCode? code
  return (ch, cs)

/-- The text of a tag with its escapes resolved. -/
def tagText? : Nat → List Char → Option (List Char)
  | 0, _ => none
  | _ + 1, [] => some []
  | fuel + 1, '%' :: cs => match escapedChar? ('%' :: cs) with
    | some (ch, cs) => (tagText? fuel cs).map (ch :: ·)
    | none => none
  | fuel + 1, c :: cs => (tagText? fuel cs).map (c :: ·)

/-- The characters of a tag in front of the cursor, escapes resolved. -/
def tagChars? (full : Bool) (c : Cursor) : Option (List Char × Cursor) :=
  let raw := c.rest.takeWhile (isTagChar full)
  (tagText? (raw.length + 1) raw).map fun text => (text, c.advance raw.length)

/-- A tag handle: an exclamation mark, and when one more closes it the word between. -/
def tagHandle (c : Cursor) : List Char × Cursor :=
  let word := (c.rest.drop 1).takeWhile isWord
  match (c.rest.drop 1).drop word.length with
  | '!' :: _ => ('!' :: word ++ ['!'], c.advance (word.length + 2))
  | _ => ('!' :: word, c.advance (word.length + 1))

/-- A tag between angle brackets. -/
def fullTag? (c : Cursor) : Option (Token × Cursor) := do
  let (text, c) ← tagChars? true c
  match text, c.rest with
  | [], _ => none
  | _, '>' :: _ => some (.tag "" (String.ofList text), c.advance 1)
  | _, _ => none

/-- A tag with a handle.  A lone exclamation mark is a tag of its own. -/
def shortTag? (c : Cursor) : Option (Token × Cursor) := do
  let (handle, c) := tagHandle c
  let (text, c) ← tagChars? false c
  if 1 < handle.length ∧ handle.getLast? = some '!' then
    if text.isEmpty then none
    else some (.tag (String.ofList handle) (String.ofList text), c)
  else
    let suffix := handle.drop 1 ++ text
    if suffix.isEmpty then some (.tag "" "!", c) else some (.tag "!" (String.ofList suffix), c)

/-- A tag, at its exclamation mark. -/
def tag? (flow : Bool) (c : Cursor) : Option (Token × Cursor) := do
  let (token, c) ← if startsWith (· = '<') (c.rest.drop 1) then fullTag? (c.advance 2)
    else shortTag? c
  if (flow ∧ startsWith (· = ',') c.rest) ∨ blankFollows c.rest then some (token, c) else none

/-- A part of a version number: at most nine digits. -/
def versionNumber? (c : Cursor) : Option (Nat × Cursor) :=
  let ds := c.rest.takeWhile Char.isDigit
  if ds.isEmpty ∨ 9 < ds.length then none
  else some (ds.foldl (fun n d => 10 * n + (d.toNat - 48)) 0, c.advance ds.length)

/-- The version that a directive declares. -/
def version? (c : Cursor) : Option (Token × Cursor) := do
  let (major, c) ← versionNumber? (c.skipWhile isBlank)
  if startsWith (· = '.') c.rest then
    let (minor, c) ← versionNumber? (c.advance 1)
    return (.version major minor, c)
  else none

/-- The tag handle that a directive declares. -/
def handle? (c : Cursor) : Option (Token × Cursor) := do
  let c := c.skipWhile isBlank
  if !startsWith (· = '!') c.rest then none
  else
    let (name, c) := tagHandle c
    if 1 < name.length ∧ name.getLast? ≠ some '!' then none
    else if !startsWith isBlank c.rest then none
    else
      let (text, c) ← tagChars? true (c.skipWhile isBlank)
      if text.isEmpty ∨ !blankFollows c.rest then none
      else return (.handle (String.ofList name) (String.ofList text), c)

/-- A directive, at its percent sign. -/
def directive? (c : Cursor) : Option (Token × Cursor) := do
  let c := c.advance 1
  let name := String.ofList (c.rest.takeWhile isWord)
  let c := c.skipWhile isWord
  if !blankFollows c.rest then none
  else
    let (token, c) ← if name = "YAML" then version? c else if name = "TAG" then handle? c else none
    let c ← c.endLine?
    return (token, c)

/-! ## §3. The state of reading -/

/-- A place where a key may have begun: the token there, and where it stands.  A key is due when it
    stands at the indentation of its block. -/
structure KeyPlace where
  slot : Nat
  due : Bool
  index : Nat
  line : Nat
  column : Nat
deriving Repr

/-- A token and what was put in front of it later. -/
structure Slot where
  before : List Token
  token : Token
deriving Repr

/-- The state of reading.  `indents` holds the indentations of the open blocks, innermost first;
    `places` one possible key for every open flow collection and one for the blocks around. -/
structure Lexer where
  cursor : Cursor
  slots : Array Slot
  indents : List Int
  places : List (Option KeyPlace)
  keyAllowed : Bool
deriving Repr

namespace Lexer

/-- Before the first token. -/
def start (cs : List Char) : Lexer := ⟨.start cs, #[], [-1], [none], true⟩

/-- Whether a flow collection is open. -/
def inFlow (s : Lexer) : Bool := 1 < s.places.length

/-- The indentation of the innermost block. -/
def indent (s : Lexer) : Int := s.indents.headD (-1)

/-- Append a token. -/
def emit (s : Lexer) (t : Token) : Lexer := { s with slots := s.slots.push ⟨[], t⟩ }

/-- Append a token and move over its characters. -/
def take (s : Lexer) (t : Token) (n : Nat) : Lexer :=
  { s.emit t with cursor := s.cursor.advance n }

/-- Put tokens in front of a token read earlier. -/
def putBefore (s : Lexer) (slot : Nat) (ts : List Token) : Lexer :=
  { s with slots := s.slots.modify slot fun e => { e with before := e.before ++ ts } }

/-- Allow or forbid that the next token begins a key. -/
def allowKey (s : Lexer) (b : Bool) : Lexer := { s with keyAllowed := b }

/-- Close the blocks that lie deeper than a column. -/
def closeBlocks (s : Lexer) (column : Int) : Lexer :=
  if s.inFlow then s
  else
    let closed := (s.indents.takeWhile (column < ·)).length
    { s with
      indents := s.indents.drop closed
      slots := s.slots ++ Array.replicate closed ⟨[], .blockEnd⟩ }

/-- Whether a block collection opens at a column. -/
def opensAt (s : Lexer) (column : Nat) : Bool := !s.inFlow && s.indent < column

/-- Open a block collection at the cursor if one begins there. -/
def openBlock (s : Lexer) (t : Token) : Lexer :=
  if s.opensAt s.cursor.column then
    { s.emit t with indents := s.cursor.column :: s.indents }
  else s

/-- Forget the possible key of the innermost collection; a key that is due must not be
    forgotten. -/
def forgetKey (s : Lexer) : Option Lexer :=
  match s.places with
  | some p :: rest => if p.due then none else some { s with places := none :: rest }
  | _ => some s

/-- Remember that a key may begin at the cursor. -/
def rememberKey (s : Lexer) : Option Lexer :=
  if s.keyAllowed then do
    let s ← s.forgetKey
    let due := !s.inFlow && s.indent = (s.cursor.column : Int)
    return { s with
      places := some ⟨s.slots.size, due, s.cursor.index, s.cursor.line, s.cursor.column⟩ ::
        s.places.tail }
  else some s

/-- Whether the colon of a key comes too late. -/
def isStale (s : Lexer) (p : KeyPlace) : Bool :=
  p.line < s.cursor.line || p.index + 1024 < s.cursor.index

/-- Forget the possible keys whose colon would come too late. -/
def forgetStale (s : Lexer) : Option Lexer := do
  let places ← s.places.mapM fun place => match place with
    | some p => if s.isStale p then if p.due then none else some none else some (some p)
    | none => some none
  return { s with places := places }

/-- Skip blanks, comments and line breaks in front of a token.  A tab counts as a blank only where
    no key may begin. -/
def skipToToken : Nat → Lexer → Lexer
  | 0, s => s
  | fuel + 1, s =>
    let c := s.cursor
    let c := if c.column = 0 ∧ startsWith (· = '\uFEFF') c.rest then c.advance 1 else c
    let tabs := s.inFlow || !s.keyAllowed
    let c := c.skipWhile fun ch => ch = ' ' || (tabs && ch = '\t')
    let c := if startsWith (· = '#') c.rest then c.skipWhile (!isBreak ·) else c
    match c.lineBreak? with
    | some (_, c) =>
      skipToToken fuel { s with cursor := c, keyAllowed := s.keyAllowed || !s.inFlow }
    | none => { s with cursor := c }

/-! ## §4. One token -/

/-- The end of the text. -/
def atEnd (s : Lexer) : Option Lexer := do
  let s ← (s.closeBlocks (-1)).forgetKey
  return s.allowKey false

/-- A directive. -/
def directive (s : Lexer) : Option Lexer := do
  let s ← (s.closeBlocks (-1)).forgetKey
  let (t, c) ← directive? s.cursor
  return { (s.emit t).allowKey false with cursor := c }

/-- The mark of the beginning or the end of a document. -/
def documentMark (s : Lexer) (t : Token) : Option Lexer := do
  let s ← (s.closeBlocks (-1)).forgetKey
  return (s.take t 3).allowKey false

/-- The beginning of a flow collection. -/
def openFlow (s : Lexer) (t : Token) : Option Lexer := do
  let s ← s.rememberKey
  let places := none :: s.places
  return { (s.take t 1).allowKey true with places := places }

/-- The end of a flow collection. -/
def closeFlow (s : Lexer) (t : Token) : Option Lexer := do
  let s ← s.forgetKey
  let places := if s.inFlow then s.places.tail else s.places
  return { (s.take t 1).allowKey false with places := places }

/-- The comma between the entries of a flow collection. -/
def flowEntry (s : Lexer) : Option Lexer := do
  let s ← s.forgetKey
  return (s.take .flowEntry 1).allowKey true

/-- The dash of a list item. -/
def blockEntry (s : Lexer) : Option Lexer := do
  if !s.inFlow ∧ !s.keyAllowed then none
  else
    let s ← (s.openBlock .blockListStart).forgetKey
    return (s.take .blockEntry 1).allowKey true

/-- The question mark of a key. -/
def keyMark (s : Lexer) : Option Lexer := do
  if !s.inFlow ∧ !s.keyAllowed then none
  else
    let s ← (s.openBlock .blockMapStart).forgetKey
    return (s.take .key 1).allowKey (!s.inFlow)

/-- The colon of a value: it turns the place remembered last into a key. -/
def valueMark (s : Lexer) : Option Lexer :=
  match s.places with
  | some p :: rest =>
    let opens := s.opensAt p.column
    let s := s.putBefore p.slot (if opens then [.blockMapStart, .key] else [.key])
    let s := { s with
      places := none :: rest
      indents := if opens then p.column :: s.indents else s.indents }
    some ((s.take .value 1).allowKey false)
  | _ =>
    if !s.inFlow ∧ !s.keyAllowed then none
    else
      let s := s.openBlock .blockMapStart
      some ((s.take .value 1).allowKey (!s.inFlow))

/-- An alias or an anchor. -/
def anchor (s : Lexer) (token : String → Token) : Option Lexer := do
  let s ← s.rememberKey
  let (name, c) ← anchorName? (s.cursor.advance 1)
  return { (s.emit (token name)).allowKey false with cursor := c }

/-- A tag. -/
def tag (s : Lexer) : Option Lexer := do
  let s ← s.rememberKey
  let (t, c) ← tag? s.inFlow s.cursor
  return { (s.emit t).allowKey false with cursor := c }

/-- A block scalar. -/
def block (s : Lexer) (fuel : Nat) (style : ScalarStyle) : Option Lexer := do
  let s ← s.forgetKey
  let (text, c) ← blockScalar (style = .folded) s.indent fuel (s.cursor.advance 1)
  return { (s.emit (.scalar (String.ofList text) style)).allowKey true with cursor := c }

/-- A quoted scalar. -/
def quoted (s : Lexer) (fuel : Nat) (double : Bool) : Option Lexer := do
  let s ← s.rememberKey
  let c := s.cursor.advance 1
  let (text, c) ← if double then doubleQuoted fuel [] c else singleQuoted fuel [] c
  return { (s.emit (.scalar (String.ofList text) .quoted)).allowKey false with cursor := c }

/-- A plain scalar.  Behind a line break a key may begin. -/
def plain (s : Lexer) (fuel : Nat) : Option Lexer := do
  let s ← s.rememberKey
  let (text, broken, c) ← plainScalar s.inFlow (s.indent + 1) fuel s.cursor
  return { (s.emit (.scalar (String.ofList text) .plain)).allowKey broken with cursor := c }

/-- Whether a plain scalar may begin with a character, given what follows it. -/
def beginsPlain (s : Lexer) (c : Char) (rest : List Char) : Bool :=
  !(isBlank c || isBreak c || isOneOf "-?:,[]\x7b\x7d#&*!|>'\"%@\x60" c) ||
    (c = '-' && !startsWith isBlank rest) ||
    (!s.inFlow && (c = '?' || c = ':') && !blankFollows rest)

/-- Read the token that a character begins. -/
def token (s : Lexer) (fuel : Nat) (c : Char) (rest : List Char) : Option Lexer :=
  if s.cursor.column = 0 ∧ c = '%' then s.directive
  else if s.cursor.atDocumentMark then
    s.documentMark (if c = '-' then .documentStart else .documentEnd)
  else if c = '[' then s.openFlow .flowListStart
  else if c = '\x7b' then s.openFlow .flowMapStart
  else if c = ']' then s.closeFlow .flowListEnd
  else if c = '\x7d' then s.closeFlow .flowMapEnd
  else if c = ',' then s.flowEntry
  else if c = '-' ∧ blankFollows rest then s.blockEntry
  else if c = '?' ∧ (s.inFlow ∨ blankFollows rest) then s.keyMark
  else if c = ':' ∧ (s.inFlow ∨ blankFollows rest) then s.valueMark
  else if c = '*' then s.anchor .alias
  else if c = '&' then s.anchor .anchor
  else if c = '!' then s.tag
  else if c = '|' ∧ !s.inFlow then s.block fuel .literal
  else if c = '>' ∧ !s.inFlow then s.block fuel .folded
  else if c = '\'' then s.quoted fuel false
  else if c = '"' then s.quoted fuel true
  else if s.beginsPlain c rest then s.plain fuel
  else none

/-! ## §5. All tokens -/

/-- Read tokens up to the end of the text. -/
def all : Nat → Lexer → Option Lexer
  | 0, _ => none
  | fuel + 1, s => do
    let s ← (skipToToken (fuel + 1) s).forgetStale
    match s.cursor.rest with
    | [] => s.atEnd
    | c :: rest => do
      let s ← (s.closeBlocks s.cursor.column).token (fuel + 1) c rest
      all fuel s

end Lexer

/-- The tokens of a text; none when the text is malformed. -/
def tokens? (s : String) : Option (List Token) :=
  let cs := s.toList
  if cs.all isAllowed then
    (Lexer.all (cs.length + 2) (.start cs)).map fun s =>
      s.slots.toList.flatMap fun e => e.before ++ [e.token]
  else none

end ApiMethods.Yaml
