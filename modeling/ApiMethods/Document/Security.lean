/-
  ApiMethods.Document.Security — declared security schemes and requirements.
-/
import ApiMethods.Json.Basic
import ApiMethods.Source.Reader

namespace ApiMethods.Document

open ApiMethods.Source (Reader Fields)

/-! ## §1. Types and places -/

/-- The type of a security scheme.  A type without a meaning is kept by its name. -/
inductive SchemeType
  | apiKey
  | http
  | basic
  | oauth2
  | openIdConnect
  | mutualTls
  | other (name : String)
deriving Repr, DecidableEq

namespace SchemeType

/-- The type with a name. -/
def ofText : String → SchemeType
  | "apiKey" => .apiKey
  | "http" => .http
  | "basic" => .basic
  | "oauth2" => .oauth2
  | "openIdConnect" => .openIdConnect
  | "mutualTLS" => .mutualTls
  | name => .other name

/-- The name of a type. -/
def text : SchemeType → String
  | .apiKey => "apiKey"
  | .http => "http"
  | .basic => "basic"
  | .oauth2 => "oauth2"
  | .openIdConnect => "openIdConnect"
  | .mutualTls => "mutualTLS"
  | .other name => name

end SchemeType

/-- Where an API key travels. -/
inductive KeyLocation
  | query
  | header
  | cookie
deriving Repr, DecidableEq

namespace KeyLocation

/-- The place with a name. -/
def ofText? : String → Option KeyLocation
  | "query" => some .query
  | "header" => some .header
  | "cookie" => some .cookie
  | _ => none

/-- The name of a place. -/
def text : KeyLocation → String
  | .query => "query"
  | .header => "header"
  | .cookie => "cookie"

end KeyLocation

/-! ## §2. Flows -/

/-- One way to obtain an access token. -/
structure Flow where
  authorizationUrl : Option String := none
  tokenUrl : Option String := none
  refreshUrl : Option String := none
  scopes : Table String String := []
deriving Repr, DecidableEq

/-- The JSON object of scopes. -/
def scopesJson (t : Table String String) : Json := .object (Table.mapValues .text t)

namespace Flow

/-- Read a flow. -/
def reader : Reader Flow := fun p n => do
  let f ← Fields.of ["authorizationUrl", "tokenUrl", "refreshUrl", "scopes"] p n
  return {
    authorizationUrl := ← f.optional 0 Reader.text
    tokenUrl := ← f.optional 1 Reader.text
    refreshUrl := ← f.optional 2 Reader.text
    scopes := ← f.defaulted 3 [] (Reader.table Reader.text) }

/-- The JSON object of a flow. -/
def toJson (f : Flow) : Json :=
  .object <|
    Json.optional "authorizationUrl" .text f.authorizationUrl ++
    Json.optional "tokenUrl" .text f.tokenUrl ++
    Json.optional "refreshUrl" .text f.refreshUrl ++
    Json.field "scopes" (scopesJson f.scopes)

end Flow

/-- The flows of a scheme, by their kind. -/
structure Flows where
  implicitFlow : Option Flow := none
  password : Option Flow := none
  clientCredentials : Option Flow := none
  authorizationCode : Option Flow := none
deriving Repr, DecidableEq

namespace Flows

/-- Read flows. -/
def reader : Reader Flows := fun p n => do
  let f ← Fields.of ["implicit", "password", "clientCredentials", "authorizationCode"] p n
  return {
    implicitFlow := ← f.optional 0 Flow.reader
    password := ← f.optional 1 Flow.reader
    clientCredentials := ← f.optional 2 Flow.reader
    authorizationCode := ← f.optional 3 Flow.reader }

/-- The JSON object of flows. -/
def toJson (f : Flows) : Json :=
  .object <|
    Json.optional "implicit" Flow.toJson f.implicitFlow ++
    Json.optional "password" Flow.toJson f.password ++
    Json.optional "clientCredentials" Flow.toJson f.clientCredentials ++
    Json.optional "authorizationCode" Flow.toJson f.authorizationCode

end Flows

/-! ## §3. Schemes -/

/-- A declared security scheme, in the form of either version. -/
structure SecurityScheme where
  type : SchemeType
  description : Option String := none
  name : Option String := none
  location : Option KeyLocation := none
  scheme : Option String := none
  bearerFormat : Option String := none
  flows : Option Flows := none
  openIdConnectUrl : Option String := none
  flow : Option String := none
  authorizationUrl : Option String := none
  tokenUrl : Option String := none
  scopes : Table String String := []
deriving Repr, DecidableEq

namespace SecurityScheme

/-- The fields of a scheme in their order. -/
def fieldNames : List String :=
  ["type", "description", "name", "in", "scheme", "bearerFormat", "flows", "openIdConnectUrl",
    "flow", "authorizationUrl", "tokenUrl", "scopes"]

/-- Read a scheme. -/
def reader : Reader SecurityScheme := fun p n => do
  let f ← Fields.of fieldNames p n
  return {
    type := ← f.required 0 (Reader.text.map SchemeType.ofText)
    description := ← f.optional 1 Reader.text
    name := ← f.optional 2 Reader.text
    location := ← f.optional 3 (Reader.choice KeyLocation.ofText?)
    scheme := ← f.optional 4 Reader.text
    bearerFormat := ← f.optional 5 Reader.text
    flows := ← f.optional 6 Flows.reader
    openIdConnectUrl := ← f.optional 7 Reader.text
    flow := ← f.optional 8 Reader.text
    authorizationUrl := ← f.optional 9 Reader.text
    tokenUrl := ← f.optional 10 Reader.text
    scopes := ← f.defaulted 11 [] (Reader.table Reader.text) }

/-- The JSON object of a scheme. -/
def toJson (s : SecurityScheme) : Json :=
  .object <|
    Json.field "type" (.text s.type.text) ++
    Json.optional "description" .text s.description ++
    Json.optional "name" .text s.name ++
    Json.optional "in" (fun l => .text l.text) s.location ++
    Json.optional "scheme" .text s.scheme ++
    Json.optional "bearerFormat" .text s.bearerFormat ++
    Json.optional "flows" Flows.toJson s.flows ++
    Json.optional "openIdConnectUrl" .text s.openIdConnectUrl ++
    Json.optional "flow" .text s.flow ++
    Json.optional "authorizationUrl" .text s.authorizationUrl ++
    Json.optional "tokenUrl" .text s.tokenUrl ++
    Json.unlessEmpty "scopes" scopesJson s.scopes

end SecurityScheme

/-! ## §4. Requirements -/

/-- One way to be admitted: the schemes that have to be met, each with its scopes. -/
abbrev Requirement := Table String (List String)

/-- Alternatives, of which one has to be met. -/
abbrev Requirements := List Requirement

namespace Requirements

/-- Read alternatives. -/
def reader : Reader Requirements := Reader.list (Reader.table (Reader.list Reader.text))

/-- The JSON value of alternatives. -/
def toJson (rs : Requirements) : Json :=
  .list (rs.map fun r => .object (Table.mapValues Json.texts r))

end Requirements

end ApiMethods.Document
