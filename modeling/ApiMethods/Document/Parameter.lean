/-
  ApiMethods.Document.Parameter — declared parameters.

  A parameter has a schema or, in the older form, a type of its own; `effectiveSchema` is
  what both mean.  Where a parameter travels is one of four places; any other place, the
  older `body` among them, is kept by its name.
-/
import ApiMethods.Document.Schema

namespace ApiMethods

/-! ## §1. Places -/

/-- The four places of a request that carry parameters. -/
inductive Location
  | path
  | query
  | header
  | cookie
deriving Repr, DecidableEq

namespace Location

/-- The name of a place. -/
def text : Location → String
  | .path => "path"
  | .query => "query"
  | .header => "header"
  | .cookie => "cookie"

/-- The place with a name. -/
def ofText? : String → Option Location
  | "path" => some .path
  | "query" => some .query
  | "header" => some .header
  | "cookie" => some .cookie
  | _ => none

end Location

namespace Document

open ApiMethods.Source (Reader Fields OrRef)

/-- The place of a parameter, as it is declared. -/
inductive Placing
  | known (location : Location)
  | other (name : String)
deriving Repr, DecidableEq

namespace Placing

/-- The place with a name. -/
def ofText (s : String) : Placing :=
  match Location.ofText? s with
  | some l => .known l
  | none => .other s

/-- The name of a place. -/
def text : Placing → String
  | .known l => l.text
  | .other s => s

/-- The place of the older form for request bodies. -/
def body : Placing := .other "body"

end Placing

/-! ## §2. Parameters -/

/-- A declared parameter.  `required` is kept as it is declared, because a path parameter may leave
    it out but not deny it. -/
structure Parameter where
  name : String
  location : Placing
  description : Option String := none
  required : Option Bool := none
  deprecated : Option Bool := none
  schema : Option Schema := none
  style : Option String := none
  explode : Option Bool := none
  sample : Option Json := none
  type : Option TypeName := none
  format : Option String := none
  items : Option Schema := none
  collectionFormat : Option String := none
deriving Repr

namespace Parameter

/-- Whether the parameter is the request body in the older form. -/
def isBody (p : Parameter) : Bool := p.location = .body

/-- The schema of the value: the declared one, else the one that the parameter's own type means. -/
def effectiveSchema (p : Parameter) : Option Schema :=
  match p.schema with
  | some s => some s
  | none => p.type.map fun t => .ofType t p.format p.items

/-- A declared schema is taken before a type of its own. -/
theorem effectiveSchema_eq_some_iff {p : Parameter} {s : Schema} :
    p.effectiveSchema = some s ↔
      p.schema = some s ∨
        p.schema = none ∧ ∃ type, p.type = some type ∧ .ofType type p.format p.items = s := by
  unfold effectiveSchema
  cases p.schema with
  | some declared => simp
  | none => simp

/-- A parameter has no schema when it declares none and has no type of its own either. -/
theorem effectiveSchema_eq_none {p : Parameter} :
    p.effectiveSchema = none ↔ p.schema = none ∧ p.type = none := by
  unfold effectiveSchema
  cases p.schema with
  | some declared => simp
  | none => simp

/-- The fields of a parameter in their order. -/
def fieldNames : List String :=
  ["name", "in", "description", "required", "deprecated", "schema", "style", "explode", "example",
    "type", "format", "items", "collectionFormat"]

/-- Read a parameter. -/
def reader : Reader Parameter := fun p n => do
  let f ← Fields.of fieldNames p n
  return {
    name := ← f.required 0 Reader.text
    location := ← f.required 1 (Reader.text.map Placing.ofText)
    description := ← f.optional 2 Reader.text
    required := ← f.optional 3 Reader.bool
    deprecated := ← f.optional 4 Reader.bool
    schema := ← f.optional 5 Schema.reader
    style := ← f.optional 6 Reader.text
    explode := ← f.optional 7 Reader.bool
    sample := ← f.optional 8 Reader.json
    type := ← f.optional 9 TypeName.reader
    format := ← f.optional 10 Reader.text
    items := ← f.optional 11 Schema.reader
    collectionFormat := ← f.optional 12 Reader.text }

/-- The JSON object of a parameter. -/
def toJson (p : Parameter) : Json :=
  .object <|
    Json.field "name" (.text p.name) ++
    Json.field "in" (.text p.location.text) ++
    Json.optional "description" .text p.description ++
    Json.optional "required" .bool p.required ++
    Json.optional "deprecated" .bool p.deprecated ++
    Json.optional "schema" Schema.toJson p.schema ++
    Json.optional "style" .text p.style ++
    Json.optional "explode" .bool p.explode ++
    Json.optional "example" id p.sample ++
    Json.optional "type" TypeName.toJson p.type ++
    Json.optional "format" .text p.format ++
    Json.optional "items" Schema.toJson p.items ++
    Json.optional "collectionFormat" .text p.collectionFormat

end Parameter

end Document

end ApiMethods
