/-
  ApiMethods.Argument.Basic — the arguments of a method.

  An argument is a declared parameter whose type and encoding have been settled.  The
  arguments of a method are kept by the place they travel in.
-/
import ApiMethods.Argument.Shape
import ApiMethods.Name.Basic

namespace ApiMethods

open Document (Schema)

/-! ## §1. Arguments -/

/-- An argument of a method. -/
structure Argument where
  name : String
  ident : Name
  location : Location
  required : Bool
  type : ValueType
  style : Argument.Style
  explode : Bool
  encoding : Argument.Encoding
  description : Option String
  deprecated : Bool
  schema : Option Schema
deriving Repr

namespace Argument

/-- What tells two arguments of a method apart. -/
abbrev Key := String × Location

/-- The key of an argument. -/
def key (a : Argument) : Key := (a.name, a.location)

/-- The JSON object of an argument. -/
def toJson (a : Argument) : Json :=
  .object <|
    Json.field "name" (.text a.name) ++
    Json.field "ident" a.ident.toJson ++
    Json.field "location" (.text a.location.text) ++
    Json.field "required" (.bool a.required) ++
    Json.field "type_descriptor" a.type.toJson ++
    Json.field "style" (.text a.style.text) ++
    Json.field "explode" (.bool a.explode) ++
    Json.field "encoding" a.encoding.toJson ++
    Json.optional "description" .text a.description ++
    Json.field "deprecated" (.bool a.deprecated) ++
    Json.optional "schema" Schema.toJson a.schema

end Argument

/-! ## §2. The arguments of a method -/

/-- Arguments by the place they travel in, each list in the order of declaration. -/
structure Arguments where
  path : List Argument
  query : List Argument
  header : List Argument
  cookie : List Argument
deriving Repr

namespace Arguments

/-- The arguments of one place. -/
def inLocation (args : Arguments) : Location → List Argument
  | .path => args.path
  | .query => args.query
  | .header => args.header
  | .cookie => args.cookie

/-- Keep arguments by their place. -/
def ofList (l : List Argument) : Arguments where
  path := l.filter (·.location = .path)
  query := l.filter (·.location = .query)
  header := l.filter (·.location = .header)
  cookie := l.filter (·.location = .cookie)

/-- All arguments, place by place. -/
def toList (args : Arguments) : List Argument :=
  args.path ++ args.query ++ args.header ++ args.cookie

/-- The number of arguments. -/
def size (args : Arguments) : Nat := args.toList.length

/-- The argument with a name in a place. -/
def find? (args : Arguments) (name : String) (location : Location) : Option Argument :=
  (args.inLocation location).find? (·.name = name)

/-- The JSON object of arguments. -/
def toJson (args : Arguments) : Json :=
  let list (l : List Argument) : Json := .list (l.map Argument.toJson)
  .object <|
    Json.field "path" (list args.path) ++
    Json.field "query" (list args.query) ++
    Json.field "header" (list args.header) ++
    Json.field "cookie" (list args.cookie)

/-! ## §3. Pages -/

/-- Names of query arguments that say where a page begins. -/
def pageNames : List String := ["page", "offset"]

/-- Names of query arguments that say how long a page is. -/
def limitNames : List String := ["limit", "per_page", "page_size"]

/-- Whether a query argument has one of some names. -/
def hasQuery (args : Arguments) (names : List String) : Bool :=
  args.query.any fun a => names.contains a.name

/-- Whether the method gives its answer page by page. -/
def isPaginated (args : Arguments) : Bool := args.hasQuery pageNames && args.hasQuery limitNames

end Arguments

end ApiMethods
