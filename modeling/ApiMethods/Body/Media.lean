/-
  ApiMethods.Body.Media — kinds of media types, and the choice between them.

  Of the media types that a body may have the most telling one is chosen: forms first, then
  JSON, texts, XML and everything else, and among equals the one declared first.
-/
import ApiMethods.Document.Content
import ApiMethods.Text.CaseMap
import ApiMethods.Text.Split

namespace ApiMethods.Body

open Document (Schema Content MediaType)

/-! ## §1. Kinds -/

/-- The kinds of media types. -/
inductive Kind
  | multipart
  | form
  | json
  | plain
  | html
  | xml
  | other
deriving Repr, DecidableEq

namespace Kind

/-- A media type without its parameters, in lower case. -/
def essence (mediaType : String) : String :=
  let bare := (Text.splitOn ';' mediaType.toList).headD []
  Text.asciiLower (String.ofList (Text.trim bare))

/-- The kind of a media type. -/
def of (mediaType : String) : Kind :=
  match essence mediaType with
  | "multipart/form-data" => .multipart
  | "application/x-www-form-urlencoded" => .form
  | "application/json" => .json
  | "text/plain" => .plain
  | "text/html" => .html
  | "application/xml" => .xml
  | _ => .other

/-- The rank of a kind; the lowest is chosen. -/
def rank : Kind → Nat
  | .multipart => 0
  | .form => 1
  | .json => 2
  | .plain => 3
  | .html => 4
  | .xml => 5
  | .other => 6

/-- The name of a kind. -/
def text : Kind → String
  | .multipart => "multipart"
  | .form => "form_url_encoded"
  | .json => "json"
  | .plain => "text_plain"
  | .html => "text_html"
  | .xml => "xml"
  | .other => "other"

end Kind

/-! ## §2. Negotiation -/

/-- The outcome of the choice: all media types in order of rank, the chosen one, and its schema. -/
structure Choice where
  available : List String
  selected : String
  schema : Option Schema
deriving Repr

/-- The media types of a content in order of rank. -/
def ranked (c : Content) : List String :=
  c.keys.mergeSort fun a b => (Kind.of a).rank ≤ (Kind.of b).rank

/-- The choice among the media types of a content; there is none when nothing is declared. -/
def negotiate (c : Content) : Option Choice :=
  match ranked c with
  | [] => none
  | selected :: rest => some ⟨selected :: rest, selected, (c.get? selected).bind (·.schema)⟩

/-- The JSON object of a choice. -/
def Choice.toJson (c : Choice) : Json :=
  .object <|
    Json.field "available" (Json.texts c.available) ++
    Json.field "selected" (.text c.selected) ++
    Json.optional "schema" Schema.toJson c.schema

end ApiMethods.Body
