/-
  ApiMethods.Path.Pieces — the placeholders of a path.

  A path is text with placeholders in braces.  A brace that nothing closes is text like any
  other.
-/

namespace ApiMethods.Path

/-- A piece of a path. -/
inductive Piece
  | literal (text : List Char)
  | slot (name : List Char)
deriving Repr, DecidableEq

namespace Piece

/-- A piece as it stands in the path. -/
def text : Piece → List Char
  | literal text => text
  | slot name => '\x7b' :: name ++ ['\x7d']

/-- The name of a placeholder. -/
def name? : Piece → Option (List Char)
  | literal _ => none
  | slot name => some name

/-- A literal, unless it is empty. -/
def ofLiteral : List Char → List Piece
  | [] => []
  | cs => [literal cs]

end Piece

/-- The pieces of a path.  `before` is the literal being read, and `inside` the name of the
    placeholder being read, if one is open; both last character first. -/
def splitFrom (before : List Char) : Option (List Char) → List Char → List Piece
  | none, [] => Piece.ofLiteral before.reverse
  | some name, [] => [.literal (before.reverse ++ '\x7b' :: name.reverse)]
  | none, c :: rest =>
    if c = '\x7b' then splitFrom before (some []) rest
    else splitFrom (c :: before) none rest
  | some name, c :: rest =>
    if c = '\x7d' then
      Piece.ofLiteral before.reverse ++ .slot name.reverse :: splitFrom [] none rest
    else splitFrom before (some (c :: name)) rest

/-- The pieces of a path. -/
def split (path : List Char) : List Piece := splitFrom [] none path

/-- The names of the placeholders of a path, in order. -/
def placeholders (path : String) : List String :=
  (split path.toList).filterMap fun p => p.name?.map String.ofList

end ApiMethods.Path
