/-
  ApiMethods.Document.Basic — an API document of either version.

  Version 3 keeps its shared definitions under `components`, version 2 at the root; the
  accessors below hide the difference.  Every other field means the same in both.
-/
import ApiMethods.Document.Operation

namespace ApiMethods

open ApiMethods.Source (Reader Fields OrRef)

namespace Document

/-! ## §1. Parts of a document -/

/-- What the document says about itself. -/
structure Info where
  title : String := ""
  description : Option String := none
  version : String := ""
deriving Repr, DecidableEq

namespace Info

/-- Read the information. -/
def reader : Reader Info := fun p n => do
  let f ← Fields.of ["title", "description", "version"] p n
  return {
    title := ← f.defaulted 0 "" Reader.text
    description := ← f.optional 1 Reader.text
    version := ← f.defaulted 2 "" Reader.text }

/-- The JSON object of the information. -/
def toJson (i : Info) : Json :=
  .object <|
    Json.field "title" (.text i.title) ++
    Json.optional "description" .text i.description ++
    Json.field "version" (.text i.version)

end Info

/-- A table is written unless it is empty. -/
def tableField {α : Type} (name : String) (f : α → Json) (t : Table String α) :
    List (String × Json) :=
  Json.unlessEmpty name (fun t => .object (Table.mapValues f t)) t

/-- Shared definitions. -/
structure Components where
  schemas : Table String Schema := []
  responses : Responses := []
  parameters : Table String (OrRef Parameter) := []
  requestBodies : Table String (OrRef RequestBody) := []
  headers : Table String (OrRef Header) := []
  securitySchemes : Table String SecurityScheme := []
deriving Repr

namespace Components

/-- The fields of the shared definitions in their order. -/
def fieldNames : List String :=
  ["schemas", "responses", "parameters", "requestBodies", "headers", "securitySchemes"]

/-- Read shared definitions. -/
def reader : Reader Components := fun p n => do
  let f ← Fields.of fieldNames p n
  return {
    schemas := ← f.defaulted 0 [] (Reader.table Schema.reader)
    responses := ← f.defaulted 1 [] Responses.reader
    parameters := ← f.defaulted 2 [] (Reader.table (Reader.orRef Parameter.reader))
    requestBodies := ← f.defaulted 3 [] (Reader.table (Reader.orRef RequestBody.reader))
    headers := ← f.defaulted 4 [] (Reader.table (Reader.orRef Header.reader))
    securitySchemes := ← f.defaulted 5 [] (Reader.table SecurityScheme.reader) }

/-- The JSON object of shared definitions. -/
def toJson (c : Components) : Json :=
  .object <|
    tableField "schemas" Schema.toJson c.schemas ++
    tableField "responses" (OrRef.toJson Response.toJson) c.responses ++
    tableField "parameters" (OrRef.toJson Parameter.toJson) c.parameters ++
    tableField "requestBodies" (OrRef.toJson RequestBody.toJson) c.requestBodies ++
    tableField "headers" (OrRef.toJson Header.toJson) c.headers ++
    tableField "securitySchemes" SecurityScheme.toJson c.securitySchemes

end Components

/-- The path items of a document. -/
abbrev Paths := Table String PathItem

/-- The JSON object of path items. -/
def Paths.toJson (ps : Paths) : Json := .object (Table.mapValues PathItem.toJson ps)

end Document

/-! ## §2. Documents -/

open Document in
/-- An API document.  `paths` may be missing, but then there is nothing to compile. -/
structure Document where
  openapi : Option String := none
  swagger : Option String := none
  info : Info := {}
  paths : Option Paths := none
  components : Option Components := none
  security : Option Requirements := none
  definitions : Table String Schema := []
  parameters : Table String (OrRef Parameter) := []
  responses : Responses := []
  securityDefinitions : Table String SecurityScheme := []
  consumes : List String := []
deriving Repr

namespace Document

/-- Whether the document is of version 2. -/
def isVersion2 (d : Document) : Bool := d.openapi.isNone && d.swagger.isSome

/-- The version, whichever field declares it. -/
def version (d : Document) : String := (d.openapi.or d.swagger).getD ""

/-- The shared definitions of version 3, unless the document is of version 2. -/
def components3 (d : Document) : Option Components := if d.isVersion2 then none else d.components

/-- The named schemas. -/
def schemas (d : Document) : Table String Schema :=
  match d.components3 with
  | some c => c.schemas
  | none => d.definitions

/-- The named parameters. -/
def namedParameters (d : Document) : Table String (OrRef Parameter) :=
  match d.components3 with
  | some c => c.parameters
  | none => d.parameters

/-- The named responses. -/
def namedResponses (d : Document) : Responses :=
  match d.components3 with
  | some c => c.responses
  | none => d.responses

/-- The named request bodies; both versions find them in the same place. -/
def namedBodies (d : Document) : Table String (OrRef RequestBody) :=
  match d.components with
  | some c => c.requestBodies
  | none => []

/-- The named headers; both versions find them in the same place. -/
def namedHeaders (d : Document) : Table String (OrRef Header) :=
  match d.components with
  | some c => c.headers
  | none => []

/-! ## §3. Reading and writing -/

/-- The fields of a document in their order. -/
def fieldNames : List String :=
  ["openapi", "swagger", "info", "paths", "components", "security", "definitions", "parameters",
    "responses", "securityDefinitions", "consumes"]

/-- Read a document. -/
def reader : Reader Document := fun p n => do
  let f ← Fields.of fieldNames p n
  return {
    openapi := ← f.optional 0 Reader.text
    swagger := ← f.optional 1 Reader.text
    info := ← f.defaulted 2 {} Info.reader
    paths := ← f.optional 3 (Reader.table PathItem.reader)
    components := ← f.optional 4 Components.reader
    security := ← f.optional 5 Requirements.reader
    definitions := ← f.defaulted 6 [] (Reader.table Schema.reader)
    parameters := ← f.defaulted 7 [] (Reader.table (Reader.orRef Parameter.reader))
    responses := ← f.defaulted 8 [] Responses.reader
    securityDefinitions := ← f.defaulted 9 [] (Reader.table SecurityScheme.reader)
    consumes := ← f.defaulted 10 [] (Reader.list Reader.text) }

/-- The JSON object of a document. -/
def toJson (d : Document) : Json :=
  .object <|
    Json.optional "openapi" .text d.openapi ++
    Json.optional "swagger" .text d.swagger ++
    Json.field "info" d.info.toJson ++
    Json.optional "paths" Paths.toJson d.paths ++
    Json.optional "components" Components.toJson d.components ++
    Json.optional "security" Requirements.toJson d.security ++
    tableField "definitions" Schema.toJson d.definitions ++
    tableField "parameters" (OrRef.toJson Parameter.toJson) d.parameters ++
    tableField "responses" (OrRef.toJson Response.toJson) d.responses ++
    tableField "securityDefinitions" SecurityScheme.toJson d.securityDefinitions ++
    Json.unlessEmpty "consumes" Json.texts d.consumes

end Document

end ApiMethods
