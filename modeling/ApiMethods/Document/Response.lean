/-
  ApiMethods.Document.Response — declared responses and their headers.
-/
import ApiMethods.Document.Content

namespace ApiMethods.Document

open ApiMethods.Source (Reader Fields OrRef)

/-! ## §1. Headers -/

/-- A response header.  Like a parameter it has a schema or a type of its own. -/
structure Header where
  description : Option String := none
  required : Bool := false
  schema : Option Schema := none
  type : Option TypeName := none
  format : Option String := none
deriving Repr

namespace Header

/-- The schema of the value: the declared one, else the one that the header's own type means. -/
def effectiveSchema (h : Header) : Option Schema :=
  match h.schema with
  | some s => some s
  | none => h.type.map fun t => .ofType t h.format none

/-- Read a header. -/
def reader : Reader Header := fun p n => do
  let f ← Fields.of ["description", "required", "schema", "type", "format"] p n
  return {
    description := ← f.optional 0 Reader.text
    required := ← f.defaulted 1 false Reader.bool
    schema := ← f.optional 2 Schema.reader
    type := ← f.optional 3 TypeName.reader
    format := ← f.optional 4 Reader.text }

/-- The JSON object of a header. -/
def toJson (h : Header) : Json :=
  .object <|
    Json.optional "description" .text h.description ++
    Json.field "required" (.bool h.required) ++
    Json.optional "schema" Schema.toJson h.schema ++
    Json.optional "type" TypeName.toJson h.type ++
    Json.optional "format" .text h.format

end Header

/-! ## §2. Responses -/

/-- A response: its content, or in the older form a schema, and its headers. -/
structure Response where
  description : String := ""
  content : Content := []
  schema : Option Schema := none
  headers : Table String (OrRef Header) := []
deriving Repr

namespace Response

/-- Read a response. -/
def reader : Reader Response := fun p n => do
  let f ← Fields.of ["description", "content", "schema", "headers"] p n
  return {
    description := ← f.defaulted 0 "" Reader.text
    content := ← f.defaulted 1 [] Content.reader
    schema := ← f.optional 2 Schema.reader
    headers := ← f.defaulted 3 [] (Reader.table (Reader.orRef Header.reader)) }

/-- The JSON object of a response. -/
def toJson (r : Response) : Json :=
  .object <|
    Json.field "description" (.text r.description) ++
    Json.unlessEmpty "content" Content.toJson r.content ++
    Json.optional "schema" Schema.toJson r.schema ++
    Json.unlessEmpty "headers"
      (fun t => .object (Table.mapValues (OrRef.toJson Header.toJson) t)) r.headers

end Response

/-- Responses by their status code. -/
abbrev Responses := Table String (OrRef Response)

namespace Responses

/-- Read responses. -/
def reader : Reader Responses := Reader.table (Reader.orRef Response.reader)

/-- The JSON object of responses. -/
def toJson (rs : Responses) : Json :=
  .object (Table.mapValues (OrRef.toJson Response.toJson) rs)

end Responses

end ApiMethods.Document
