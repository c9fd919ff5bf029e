/-
  ApiMethods.Body.Plan — what a method takes as the body of its request.

  The chosen media type decides how a body is given and how it is encoded.  JSON bodies are
  models where the source of models knows them, and generic values otherwise; XML is
  approximated by JSON unless it is a plain text.
-/
import ApiMethods.Body.Media
import ApiMethods.Models

namespace ApiMethods.Body

open Document (Schema RequestBody)

/-! ## §1. Plans -/

/-- What is given as the body. -/
inductive Payload
  | fieldBag
  | formMap
  | rawString
  | model (type : String) (isList : Bool)
  | generic (type : ValueType)
deriving Repr

/-- How a body becomes bytes. -/
inductive Encoding
  | multipart
  | form
  | passthrough
  | modelEncode
  | json
deriving Repr, DecidableEq

/-- The plan for a request body. -/
structure Plan where
  content : Choice
  kind : Kind
  payload : Payload
  encoding : Encoding
  contentTypeHeader : Option String
  required : Bool
  approximate : Bool
  description : Option String
deriving Repr

/-- The JSON object of a payload. -/
def Payload.toJson : Payload → Json
  | .fieldBag => .object [("kind", .text "field_bag")]
  | .formMap => .object [("kind", .text "form_map")]
  | .rawString => .object [("kind", .text "raw_string")]
  | .model type isList =>
    .object [("kind", .text "model"), ("type_name", .text type), ("is_list", .bool isList)]
  | .generic type => .object [("kind", .text "generic"), ("value_type", type.toJson)]

/-- The name of an encoding. -/
def Encoding.text : Encoding → String
  | .multipart => "multipart"
  | .form => "form_url_encoded"
  | .passthrough => "passthrough"
  | .modelEncode => "model_encode"
  | .json => "json"

/-- The JSON object of a plan. -/
def Plan.toJson (p : Plan) : Json :=
  .object <|
    Json.field "content" p.content.toJson ++
    Json.field "kind" (.text p.kind.text) ++
    Json.field "payload" p.payload.toJson ++
    Json.field "encoding" (.text p.encoding.text) ++
    Json.optional "content_type_header" .text p.contentTypeHeader ++
    Json.field "required" (.bool p.required) ++
    Json.field "approximate" (.bool p.approximate) ++
    Json.optional "description" .text p.description

/-! ## §2. Payloads -/

/-- The payload of a schema that is a model. -/
def modelPayload? (m : Models) (s : Option Schema) : Option Payload := do
  let found ← s.bind m.find?
  return .model found.type found.isList

/-- A model, or else a generic value as JSON. -/
def structured (m : Models) (s : Option Schema) : Payload × Encoding :=
  match modelPayload? m s with
  | some p => (p, .modelEncode)
  | none => (.generic ((s.map ValueType.generic).getD .any), .json)

/-- A model, or else a text. -/
def modelOrText (m : Models) (s : Option Schema) : Payload × Encoding :=
  match modelPayload? m s with
  | some p => (p, .modelEncode)
  | none => (.rawString, .passthrough)

/-- Whether a schema says that the body is a plain text. -/
def isBareString (s : Option Schema) : Bool :=
  ((s.bind Schema.body?).map (·.isBareString)).getD false

/-- Payload and encoding of a body of some kind. -/
def encode (m : Models) (s : Option Schema) : Kind → Payload × Encoding
  | .multipart => (.fieldBag, .multipart)
  | .form => (.formMap, .form)
  | .plain => (.rawString, .passthrough)
  | .html => (.rawString, .passthrough)
  | .json => structured m s
  | .xml => if isBareString s then (.rawString, .passthrough) else structured m s
  | .other => modelOrText m s

/-! ## §3. Planning -/

/-- The plan for a request body; there is none when no content is declared. -/
def plan (m : Models) (b : RequestBody) : Option Plan := do
  let content ← negotiate b.content
  let kind := Kind.of content.selected
  let (payload, encoding) := encode m content.schema kind
  return {
    content := content
    kind := kind
    payload := payload
    encoding := encoding
    contentTypeHeader := if kind = .multipart then none else some content.selected
    required := b.required
    approximate := kind = .xml && !isBareString content.schema
    description := b.description }

end ApiMethods.Body
