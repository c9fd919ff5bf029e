/-
  ApiMethods.Name.Basic — a name in every convention.

  A name from a document may hold anything.  It is first collapsed to words of letters and
  numbers; the conventions are applied to the result.
-/
import ApiMethods.Json.Basic
import ApiMethods.Text.Words

namespace ApiMethods

/-- A name as it was declared, and in the conventions of programming languages. -/
structure Name where
  declared : String
  pascal : String
  camel : String
  snake : String
  screaming : String
deriving Repr, DecidableEq

namespace Name

/-! ## §1. Collapsing -/

/-- Letters and numbers, with one `_` for every run of other characters between them.  `due` tells
    that such a run has been read, `started` that something has been written. -/
def collapseFrom (due started : Bool) : List Char → List Char
  | [] => []
  | c :: rest =>
    if Text.isAlphanumeric c then
      (if due ∧ started then ['_'] else []) ++ c :: collapseFrom false true rest
    else collapseFrom true started rest

/-- A `_` in front of a digit that begins a name. -/
def digitGuard : List Char → List Char
  | c :: _ => if c.isDigit then ['_'] else []
  | [] => []

/-- The words of a name joined by `_`; a name without any is `unnamed`. -/
def collapse (s : String) : String :=
  match digitGuard s.toList ++ collapseFrom false false s.toList with
  | [] => "unnamed"
  | cs => String.ofList cs

/-! ## §2. The conventions -/

/-- The name in every convention. -/
def of (s : String) : Name :=
  let words := collapse s
  ⟨s, Text.pascalCase words, Text.camelCase words, Text.snakeCase words,
    Text.screamingSnakeCase words⟩

/-- The JSON object of a name. -/
def toJson (n : Name) : Json :=
  .object <|
    Json.field "original" (.text n.declared) ++
    Json.field "pascal_case" (.text n.pascal) ++
    Json.field "camel_case" (.text n.camel) ++
    Json.field "snake_case" (.text n.snake) ++
    Json.field "screaming_snake" (.text n.screaming)

end Name

end ApiMethods
