/-
  ApiMethods.Reply.Basic — what a method gives back.
-/
import ApiMethods.Types.Basic

namespace ApiMethods

/-! ## §1. Headers -/

/-- A header that may come with an answer. -/
structure ReplyHeader where
  name : String
  type : ValueType
  required : Bool
deriving Repr

/-- The JSON object of a header. -/
def ReplyHeader.toJson (h : ReplyHeader) : Json :=
  .object <|
    Json.field "name" (.text h.name) ++
    Json.field "header_type" h.type.toJson ++
    Json.field "required" (.bool h.required)

/-! ## §2. Answers -/

/-- Whether an answer has a body, and whether the body is a list. -/
inductive ReplyKind
  | void
  | object
  | array
deriving Repr, DecidableEq

/-- The name of a kind. -/
def ReplyKind.text : ReplyKind → String
  | .void => "void"
  | .object => "object"
  | .array => "array"

/-- The answer of a method.  `status` is the code of the response that it was taken from, and
    `model` the model of the body or of its items. -/
structure Reply where
  kind : ReplyKind := .void
  status : Option String := none
  contentType : Option String := none
  model : Option String := none
  isList : Bool := false
  bodyType : ValueType := .any
  headers : List ReplyHeader := []
deriving Repr

namespace Reply

/-- Whether headers may come with the answer. -/
def hasHeaders (r : Reply) : Bool := !r.headers.isEmpty

/-- The JSON object of an answer. -/
def toJson (r : Reply) : Json :=
  .object <|
    Json.field "kind" (.text r.kind.text) ++
    Json.optional "status" .text r.status ++
    Json.optional "content_type" .text r.contentType ++
    Json.optional "model" .text r.model ++
    Json.field "is_list" (.bool r.isList) ++
    Json.field "body_type" r.bodyType.toJson ++
    Json.field "headers" (.list (r.headers.map ReplyHeader.toJson))

end Reply

end ApiMethods
