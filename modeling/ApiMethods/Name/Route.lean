/-
  ApiMethods.Name.Route — names for operations after their route.

  An operation without an id is named after its verb and its path: `GET /users` is
  `listUsers`, `GET /users/{id}` is `getUser`.  A path that ends with a placeholder is about
  one thing, and the last word in front of it is put into the singular.
-/
import ApiMethods.Text.Split
import ApiMethods.Text.Words

namespace ApiMethods.Name

/-- Whether a segment of a path is a placeholder. -/
def isPlaceholder (segment : List Char) : Bool :=
  segment.head? = some '\x7b' && segment.getLast? = some '\x7d'

/-- The segments of a path. -/
def segments (path : String) : List (List Char) :=
  (Text.splitOn '/' path.toList).filter fun s => !s.isEmpty

/-- A plural without its ending, written backwards. -/
def singularReversed : List Char → List Char
  | 's' :: 'e' :: 'i' :: c :: rest => 'y' :: c :: rest
  | 's' :: 'e' :: c :: rest =>
    if c = 's' ∨ c = 'x' ∨ c = 'z' then c :: rest else 'e' :: c :: rest
  | 's' :: c :: rest => if c = 's' then 's' :: c :: rest else c :: rest
  | cs => cs

/-- A plural without its ending. -/
def singular (word : List Char) : List Char := (singularReversed word.reverse).reverse

/-- The words that stand for the verbs; a verb without one stands for itself. -/
def action (verb : String) (single : Bool) : String :=
  match verb with
  | "GET" => if single then "get" else "list"
  | "POST" => "create"
  | "PUT" => "update"
  | "DELETE" => "delete"
  | "PATCH" => "patch"
  | "OPTIONS" => "options"
  | "HEAD" => "head"
  | "TRACE" => "trace"
  | other => other

/-- Put the last word into the singular. -/
def singularLast : List (List Char) → List (List Char)
  | [] => []
  | [w] => [singular w]
  | w :: rest => w :: singularLast rest

/-- The name of the route of a verb, in any case, and a path. -/
def ofRoute (verb path : String) : String :=
  let parts := segments path
  let single := (parts.getLast?.map isPlaceholder).getD false
  let things := parts.filter fun s => !isPlaceholder s
  let things := if single then singularLast things else things
  let verb := String.ofList (Text.upperWord verb.toList)
  things.foldl (fun name w => name ++ Text.pascalCase (String.ofList w)) (action verb single)

end ApiMethods.Name
