/-
  ApiMethods.Auth.Scheme — security schemes in one form.

  The two versions of documents declare schemes differently, and a declaration may lack what
  its type needs.  A declaration becomes a scheme or is rejected for a reason; the catalog of
  a document keeps both.
-/
import ApiMethods.Document.Basic
import ApiMethods.Text.CaseMap

namespace ApiMethods.Auth

open Document (KeyLocation Flow Flows SecurityScheme)

/-! ## §1. Schemes -/

/-- The schemes of HTTP authentication. -/
inductive HttpScheme
  | basic
  | bearer
  | digest
  | other (name : String)
deriving Repr, DecidableEq

/-- The scheme with a name in any case. -/
def HttpScheme.ofText (s : String) : HttpScheme :=
  match Text.asciiLower s with
  | "basic" => .basic
  | "bearer" => .bearer
  | "digest" => .digest
  | name => .other name

/-- The JSON value of a scheme of HTTP authentication. -/
def HttpScheme.toJson : HttpScheme → Json
  | .basic => .text "basic"
  | .bearer => .text "bearer"
  | .digest => .text "digest"
  | .other name => .object [("other", .text name)]

/-- A way to obtain an access token. -/
structure FlowInfo where
  flow : String
  authorizationUrl : Option String
  tokenUrl : Option String
  scopes : List String
deriving Repr, DecidableEq

/-- The JSON object of a flow. -/
def FlowInfo.toJson (f : FlowInfo) : Json :=
  .object <|
    Json.field "flow" (.text f.flow) ++
    Json.optional "authorization_url" .text f.authorizationUrl ++
    Json.optional "token_url" .text f.tokenUrl ++
    Json.field "scopes" (Json.texts f.scopes)

/-- What a scheme asks for. -/
inductive SchemeKind
  | apiKey (location : KeyLocation) (parameter : String)
  | http (scheme : HttpScheme) (bearerFormat : Option String)
  | oauth2 (flows : List FlowInfo)
  | openIdConnect (url : String)
deriving Repr, DecidableEq

/-- The JSON object of what a scheme asks for. -/
def SchemeKind.toJson : SchemeKind → Json
  | .apiKey location parameter =>
    .object [("type", .text "apiKey"), ("location", .text location.text),
      ("param_name", .text parameter)]
  | .http scheme bearerFormat =>
    .object <|
      Json.field "type" (.text "http") ++
      Json.field "scheme" scheme.toJson ++
      Json.optional "bearer_format" .text bearerFormat
  | .oauth2 flows =>
    .object [("type", .text "oAuth2"), ("flows", .list (flows.map FlowInfo.toJson))]
  | .openIdConnect url => .object [("type", .text "openIdConnect"), ("url", .text url)]

/-- A scheme and its name. -/
structure Scheme where
  name : String
  kind : SchemeKind
deriving Repr, DecidableEq

/-- The JSON object of a scheme. -/
def Scheme.toJson (s : Scheme) : Json :=
  .object [("name", .text s.name), ("kind", s.kind.toJson)]

/-! ## §2. Rejections -/

/-- Why a declaration is no scheme. -/
inductive Rejection
  | keyWithoutLocation
  | keyWithoutName
  | httpWithoutScheme
  | openIdWithoutUrl
  | mutualTls
  | unknownType (name : String)
deriving Repr, DecidableEq

/-- The message of a rejection. -/
def Rejection.message : Rejection → String
  | .keyWithoutLocation => "apiKey scheme has no \x60in\x60"
  | .keyWithoutName => "apiKey scheme has no \x60name\x60"
  | .httpWithoutScheme => "http scheme has no \x60scheme\x60"
  | .openIdWithoutUrl => "openIdConnect scheme has no \x60openIdConnectUrl\x60"
  | .mutualTls => "mutualTLS is not supported"
  | .unknownType name => "unknown scheme type \x60" ++ name ++ "\x60"

/-! ## §3. From declarations to schemes -/

/-- The flow of a kind, if it is declared. -/
def namedFlow (kind : String) (f : Option Flow) : List FlowInfo :=
  match f with
  | some f => [⟨kind, f.authorizationUrl, f.tokenUrl, f.scopes.keys⟩]
  | none => []

/-- The kind of flow that an older name means. -/
def flowKind : String → String
  | "application" => "clientCredentials"
  | "accessCode" => "authorizationCode"
  | kind => kind

/-- The flows of a declaration: those of version 3, else the one of version 2. -/
def flows (s : SecurityScheme) : List FlowInfo :=
  match s.flows, s.flow with
  | some f, _ =>
    namedFlow "implicit" f.implicitFlow ++ namedFlow "password" f.password ++
      namedFlow "clientCredentials" f.clientCredentials ++
      namedFlow "authorizationCode" f.authorizationCode
  | none, some kind => [⟨flowKind kind, s.authorizationUrl, s.tokenUrl, s.scopes.keys⟩]
  | none, none => []

/-- What a declaration asks for. -/
def kindOf (s : SecurityScheme) : Except Rejection SchemeKind :=
  match s.type with
  | .apiKey => match s.location, s.name with
    | none, _ => .error .keyWithoutLocation
    | some _, none => .error .keyWithoutName
    | some location, some name => .ok (.apiKey location name)
  | .http => match s.scheme with
    | none => .error .httpWithoutScheme
    | some scheme => .ok (.http (.ofText scheme) s.bearerFormat)
  | .basic => .ok (.http .basic none)
  | .oauth2 => .ok (.oauth2 (flows s))
  | .openIdConnect => match s.openIdConnectUrl with
    | none => .error .openIdWithoutUrl
    | some url => .ok (.openIdConnect url)
  | .mutualTls => .error .mutualTls
  | .other name => .error (.unknownType name)

/-- The scheme that a declaration makes. -/
def normalize (name : String) (s : SecurityScheme) : Except Rejection Scheme :=
  (kindOf s).map fun kind => ⟨name, kind⟩

/-! ## §4. Catalogs -/

/-- The schemes of a document, the declarations that were rejected, and the keys that lead to the
    declarations. -/
structure Catalog where
  schemes : Table String Scheme
  rejected : List (String × Rejection)
  home : List String
deriving Repr

namespace Catalog

/-- The catalog of some declarations. -/
def ofTable (home : List String) (t : Table String SecurityScheme) : Catalog where
  schemes := t.filterMap fun (name, s) => (normalize name s).toOption.map fun n => (name, n)
  rejected := t.filterMap fun (name, s) => match normalize name s with
    | .ok _ => none
    | .error e => some (name, e)
  home := home

/-- The catalog of a document. -/
def ofDocument (d : Document) : Catalog :=
  match d.components3 with
  | some c => ofTable ["components", "securitySchemes"] c.securitySchemes
  | none => ofTable ["securityDefinitions"] d.securityDefinitions

/-- The scheme with a name. -/
def get? (c : Catalog) (name : String) : Option Scheme := c.schemes.get? name

end Catalog

end ApiMethods.Auth
