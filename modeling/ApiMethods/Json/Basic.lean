/-
  ApiMethods.Json.Basic — JSON values whose objects keep their order.

  Two orders matter.  A record is written in the order of its fields and a map in the order
  of the document; free values that a document carries along (examples, defaults) are kept
  with their keys sorted and without repetitions.
-/
import ApiMethods.Number.Shortest

namespace ApiMethods

/-- A JSON value. -/
inductive Json
  | null
  | bool (b : Bool)
  | number (n : Number.Value)
  | text (s : String)
  | list (items : List Json)
  | object (entries : List (String × Json))
deriving Repr, Inhabited

namespace Json

/-! ## §1. Building -/

/-- A whole number. -/
def whole (n : Int) : Json := .number (.whole n)

/-- A list of texts. -/
def texts (items : List String) : Json := .list (items.map .text)

/-- A field that is always written. -/
def field (name : String) (v : Json) : List (String × Json) := [(name, v)]

/-- A field that is written when there is a value. -/
def optional {α : Type} (name : String) (f : α → Json) : Option α → List (String × Json)
  | some a => [(name, f a)]
  | none => []

/-- A list field that is left out when it is empty. -/
def unlessEmpty {α : Type} (name : String) (f : List α → Json) : List α → List (String × Json)
  | [] => []
  | items => [(name, f items)]

/-- `null` for nothing. -/
def orNull {α : Type} (f : α → Json) : Option α → Json
  | some a => f a
  | none => .null

/-! ## §2. Sorted objects -/

/-- Write an entry into a list sorted by key, replacing the value of an equal key. -/
def insertSorted (k : String) (v : Json) : List (String × Json) → List (String × Json)
  | [] => [(k, v)]
  | (k', v') :: rest =>
    if k < k' then (k, v) :: (k', v') :: rest
    else if k = k' then (k, v) :: rest
    else (k', v') :: insertSorted k v rest

/-- The object with these entries, sorted by key; of equal keys the last one counts. -/
def sorted (entries : List (String × Json)) : List (String × Json) :=
  entries.foldl (fun acc e => insertSorted e.1 e.2 acc) []

mutual

/-- The same value with the keys of every object sorted. -/
def sortKeys : Json → Json
  | .list items => .list (sortItems items)
  | .object entries => .object (sorted (sortEntries entries))
  | v => v

/-- `sortKeys` on every item. -/
def sortItems : List Json → List Json
  | [] => []
  | v :: rest => sortKeys v :: sortItems rest

/-- `sortKeys` on every value. -/
def sortEntries : List (String × Json) → List (String × Json)
  | [] => []
  | (k, v) :: rest => (k, sortKeys v) :: sortEntries rest

end

/-! ## §3. Looking inside -/

/-- The value of a field of an object. -/
def get? (v : Json) (k : String) : Option Json :=
  match v with
  | .object entries => entries.lookup k
  | _ => none

/-- Whether the value is a text. -/
def isText : Json → Bool
  | .text _ => true
  | _ => false

end Json

end ApiMethods
