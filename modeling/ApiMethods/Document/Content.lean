/-
  ApiMethods.Document.Content — what a body carries, by media type.
-/
import ApiMethods.Document.Schema

namespace ApiMethods.Document

open ApiMethods.Source (Reader Fields OrRef)

/-! ## §1. Encodings of form fields -/

/-- How one field of a form is encoded. -/
structure Encoding where
  contentType : Option String := none
  style : Option String := none
  explode : Option Bool := none
deriving Repr, DecidableEq

namespace Encoding

/-- Read an encoding. -/
def reader : Reader Encoding := fun p n => do
  let f ← Fields.of ["contentType", "style", "explode"] p n
  return {
    contentType := ← f.optional 0 Reader.text
    style := ← f.optional 1 Reader.text
    explode := ← f.optional 2 Reader.bool }

/-- The JSON object of an encoding. -/
def toJson (e : Encoding) : Json :=
  .object <|
    Json.optional "contentType" .text e.contentType ++
    Json.optional "style" .text e.style ++
    Json.optional "explode" .bool e.explode

end Encoding

/-! ## §2. Media types -/

/-- What is said about a body of one media type. -/
structure MediaType where
  schema : Option Schema := none
  encoding : Table String Encoding := []
  sample : Option Json := none
deriving Repr

namespace MediaType

/-- Read a media type. -/
def reader : Reader MediaType := fun p n => do
  let f ← Fields.of ["schema", "encoding", "example"] p n
  return {
    schema := ← f.optional 0 Schema.reader
    encoding := ← f.defaulted 1 [] (Reader.table Encoding.reader)
    sample := ← f.optional 2 Reader.json }

/-- The JSON object of a media type. -/
def toJson (m : MediaType) : Json :=
  .object <|
    Json.optional "schema" Schema.toJson m.schema ++
    Json.unlessEmpty "encoding" (fun t => .object (Table.mapValues Encoding.toJson t)) m.encoding ++
    Json.optional "example" id m.sample

end MediaType

/-- Bodies by their media type. -/
abbrev Content := Table String MediaType

namespace Content

/-- Read the bodies. -/
def reader : Reader Content := Reader.table MediaType.reader

/-- The JSON object of the bodies. -/
def toJson (c : Content) : Json := .object (Table.mapValues MediaType.toJson c)

end Content

/-! ## §3. Request bodies -/

/-- The body of a request. -/
structure RequestBody where
  description : Option String := none
  content : Content := []
  required : Bool := false
deriving Repr

namespace RequestBody

/-- Read a request body. -/
def reader : Reader RequestBody := fun p n => do
  let f ← Fields.of ["description", "content", "required"] p n
  return {
    description := ← f.optional 0 Reader.text
    content := ← f.defaulted 1 [] Content.reader
    required := ← f.defaulted 2 false Reader.bool }

/-- The JSON object of a request body. -/
def toJson (b : RequestBody) : Json :=
  .object <|
    Json.optional "description" .text b.description ++
    Json.field "content" b.content.toJson ++
    Json.field "required" (.bool b.required)

end RequestBody

end ApiMethods.Document
