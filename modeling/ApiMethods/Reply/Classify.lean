/-
  ApiMethods.Reply.Classify — the answer that declared responses mean.

  One response decides: `204` if it is declared, else the first of `200`, `201` and `202`.
  Its body is JSON where that is declared, and its schema is a model where the source of
  models knows it.  Headers are collected from all responses, the deciding one first.
-/
import ApiMethods.Document.Response
import ApiMethods.Models
import ApiMethods.Reply.Basic
import ApiMethods.Skip
import ApiMethods.Text.CaseMap

namespace ApiMethods.Reply

open ApiMethods.Source (OrRef)
open Document (Schema Header Response Responses)

/-! ## §1. The deciding response -/

/-- The codes that may decide, in order. -/
def decidingCodes : List String := ["204", "200", "201", "202"]

/-- The code of the deciding response. -/
def selectedCode? (rs : Responses) : Option String := decidingCodes.find? rs.has

/-- The deciding response and its code. -/
def select? (rs : Responses) : Option (String × OrRef Response) := do
  let code ← selectedCode? rs
  let r ← rs.get? code
  return (code, r)

/-! ## §2. Headers -/

/-- Whether two names of headers are the same. -/
def sameHeader (a b : String) : Bool := Text.asciiLower a = Text.asciiLower b

/-- Add a header unless one of that name was found before; a reference adds nothing. -/
def addHeader (found : List ReplyHeader) (name : String) : OrRef Header → List ReplyHeader
  | .ref _ => found
  | .inline h =>
    if found.any fun f => sameHeader f.name name then found
    else found ++ [⟨name, ValueType.ofSlot h.effectiveSchema, h.required⟩]

/-- Add the headers of a response; a reference adds nothing. -/
def addHeaders (found : List ReplyHeader) : OrRef Response → List ReplyHeader
  | .ref _ => found
  | .inline r => r.headers.foldl (fun found e => addHeader found e.1 e.2) found

/-- The responses, the selected one first. -/
def inOrder (rs : Responses) (selected : Option String) : List (OrRef Response) :=
  let first := (selected.bind rs.get?).toList
  first ++ (rs.filter fun e => some e.1 ≠ selected).map (·.2)

/-- The headers of all responses. -/
def collectHeaders (rs : Responses) (selected : Option String) : List ReplyHeader :=
  (inOrder rs selected).foldl addHeaders []

/-! ## §3. The body -/

/-- The media type of JSON. -/
def jsonMediaType : String := "application/json"

/-- The media type and the schema of a body: JSON when it is declared, else the first one. -/
def body? (r : Response) : Option (String × Option Schema) :=
  match r.schema with
  | some s => some (jsonMediaType, some s)
  | none => match r.content.get? jsonMediaType with
    | some m => some (jsonMediaType, m.schema)
    | none => r.content.head?.map fun (mediaType, m) => (mediaType, m.schema)

/-- The kind of a body that may be a list. -/
def kindOf (isList : Bool) : ReplyKind := if isList then .array else .object

/-- A type, or the type of lists of it. -/
def listOf (isList : Bool) (t : ValueType) : ValueType := if isList then .array t else t

/-- Whether a schema says that its values are lists. -/
def saysArray (s : Schema) : Bool :=
  match s.body? with
  | some b => b.type = some (.one .array)
  | none => false

/-- Whether a type is that of lists. -/
def isArray : ValueType → Bool
  | .array _ => true
  | _ => false

/-- An answer whose body has a schema with the reference of a model. -/
def ofModel (m : Models) (target : String) (isList : Bool) (r : Reply) : Reply :=
  let model := m.typeOf? target
  { r with
    kind := kindOf isList
    isList := isList
    model := model
    bodyType := listOf isList ((model.map .model).getD .map) }

/-- An answer whose body has another schema. -/
def ofGeneric (s : Schema) (r : Reply) : Reply :=
  let t := ValueType.generic s
  let isList := saysArray s || isArray t
  { r with kind := kindOf isList, isList := isList, bodyType := t }

/-- An answer whose body has a schema. -/
def ofSchema (m : Models) (s : Schema) (r : Reply) : Reply :=
  match Models.reference? s with
  | some (target, isList) => ofModel m target isList r
  | none => ofGeneric s r

/-- An answer with a body. -/
def ofBody (m : Models) (mediaType : String) (s : Option Schema) (r : Reply) : Reply :=
  let r := { r with contentType := some mediaType }
  match s with
  | some s => ofSchema m s r
  | none => { r with kind := .object }

/-! ## §4. Classification -/

/-- The answer that declared responses mean.  A deciding response that is a reference gives none. -/
def classify (m : Models) (rs : Responses) : Except SkipReason Reply :=
  match select? rs with
  | none => .ok { headers := collectHeaders rs none }
  | some (_, .ref target) => .error (.unresolvedReference target)
  | some (code, .inline response) =>
    let r : Reply := { status := some code, headers := collectHeaders rs (some code) }
    if code = "204" then .ok r
    else match body? response with
      | none => .ok r
      | some (mediaType, s) => .ok (ofBody m mediaType s r)

end ApiMethods.Reply
