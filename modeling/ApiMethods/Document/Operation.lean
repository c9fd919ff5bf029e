/-
  ApiMethods.Document.Operation — operations, and the paths they stand under.

  A path item holds one operation per HTTP verb, in the order of the document, and the
  parameters that its operations share.  It is read entry by entry: of a repeated key the
  last value counts, at the place of the first, and keys without a meaning are passed over.
-/
import ApiMethods.Document.Parameter
import ApiMethods.Document.Response
import ApiMethods.Document.Security

namespace ApiMethods

/-! ## §1. Verbs -/

/-- An HTTP verb. -/
inductive Verb
  | get
  | post
  | put
  | delete
  | patch
  | options
  | head
  | trace
deriving Repr, DecidableEq

namespace Verb

/-- All verbs. -/
def all : List Verb := [.get, .post, .put, .delete, .patch, .options, .head, .trace]

/-- The verb as a request spells it. -/
def text : Verb → String
  | .get => "GET"
  | .post => "POST"
  | .put => "PUT"
  | .delete => "DELETE"
  | .patch => "PATCH"
  | .options => "OPTIONS"
  | .head => "HEAD"
  | .trace => "TRACE"

/-- The key of the verb's operation in a path item. -/
def key : Verb → String
  | .get => "get"
  | .post => "post"
  | .put => "put"
  | .delete => "delete"
  | .patch => "patch"
  | .options => "options"
  | .head => "head"
  | .trace => "trace"

/-- The verb with a key. -/
def ofKey? (s : String) : Option Verb := all.find? (·.key = s)

/-- Whether a request with this verb may carry a body. -/
def acceptsBody : Verb → Bool
  | .post => true
  | .put => true
  | .patch => true
  | _ => false

theorem mem_all (v : Verb) : v ∈ all := by cases v <;> decide

theorem key_injective {v w : Verb} (h : v.key = w.key) : v = w := by
  revert h; cases v <;> cases w <;> decide

theorem ofKey?_key (v : Verb) : ofKey? v.key = some v := by cases v <;> decide

theorem key_of_ofKey? {s : String} {v : Verb} (h : ofKey? s = some v) : v.key = s := by
  simpa using List.find?_some h

end Verb

namespace Document

open ApiMethods.Source (Reader Fields OrRef Fault Node)

/-! ## §2. Operations -/

/-- A declared operation.  Without `security` the document's requirements hold; an empty list opts
    out of them. -/
structure Operation where
  operationId : Option String := none
  summary : Option String := none
  description : Option String := none
  tags : List String := []
  parameters : List (OrRef Parameter) := []
  requestBody : Option (OrRef RequestBody) := none
  responses : Responses := []
  deprecated : Option Bool := none
  security : Option Requirements := none
  consumes : List String := []
deriving Repr

/-- Read parameters. -/
def parametersReader : Reader (List (OrRef Parameter)) :=
  Reader.list (Reader.orRef Parameter.reader)

/-- The JSON value of parameters. -/
def parametersJson (ps : List (OrRef Parameter)) : Json :=
  .list (ps.map (OrRef.toJson Parameter.toJson))

namespace Operation

/-- The fields of an operation in their order. -/
def fieldNames : List String :=
  ["operationId", "summary", "description", "tags", "parameters", "requestBody", "responses",
    "deprecated", "security", "consumes"]

/-- Read an operation. -/
def reader : Reader Operation := fun p n => do
  let f ← Fields.of fieldNames p n
  return {
    operationId := ← f.optional 0 Reader.text
    summary := ← f.optional 1 Reader.text
    description := ← f.optional 2 Reader.text
    tags := ← f.defaulted 3 [] (Reader.list Reader.text)
    parameters := ← f.defaulted 4 [] parametersReader
    requestBody := ← f.optional 5 (Reader.orRef RequestBody.reader)
    responses := ← f.defaulted 6 [] Responses.reader
    deprecated := ← f.optional 7 Reader.bool
    security := ← f.optional 8 Requirements.reader
    consumes := ← f.defaulted 9 [] (Reader.list Reader.text) }

/-- The JSON object of an operation. -/
def toJson (o : Operation) : Json :=
  .object <|
    Json.optional "operationId" .text o.operationId ++
    Json.optional "summary" .text o.summary ++
    Json.optional "description" .text o.description ++
    Json.unlessEmpty "tags" Json.texts o.tags ++
    Json.unlessEmpty "parameters" parametersJson o.parameters ++
    Json.optional "requestBody" (OrRef.toJson RequestBody.toJson) o.requestBody ++
    Json.unlessEmpty "responses" Responses.toJson o.responses ++
    Json.optional "deprecated" .bool o.deprecated ++
    Json.optional "security" Requirements.toJson o.security ++
    Json.unlessEmpty "consumes" Json.texts o.consumes

end Operation

/-! ## §3. Path items -/

/-- The operations under one path. -/
structure PathItem where
  summary : Option String := none
  description : Option String := none
  parameters : List (OrRef Parameter) := []
  operations : Table Verb Operation := []
deriving Repr

namespace PathItem

/-- The meaning of an entry of a path item. -/
inductive Entry
  | summary (text : Option String)
  | description (text : Option String)
  | parameters (parameters : List (OrRef Parameter))
  | operation (verb : Verb) (operation : Operation)
  | unknown
deriving Repr

/-- Read the entry under a key. -/
def entryReader (key : String) : Reader Entry :=
  if key = "summary" then (Reader.option Reader.text).map .summary
  else if key = "description" then (Reader.option Reader.text).map .description
  else if key = "parameters" then parametersReader.map .parameters
  else match Verb.ofKey? key with
    | some verb => Operation.reader.map (.operation verb)
    | none => fun _ _ => .ok .unknown

/-- Write an entry over what earlier entries said. -/
def add (item : PathItem) : Entry → PathItem
  | .summary s => { item with summary := s }
  | .description s => { item with description := s }
  | .parameters ps => { item with parameters := ps }
  | .operation verb o => { item with operations := item.operations.insert verb o }
  | .unknown => item

/-- The path item that entries make, one after the other. -/
def ofEntries (entries : List Entry) : PathItem := entries.foldl add {}

/-- Read the entries of a path item. -/
def entriesReader : Reader (List Entry) := fun p n => do
  match ← p.origin.follow n with
  | .map _ entries => do
    let p ← p.inside
    entries.mapM fun (k, v) => do
      let key ← Reader.text p k
      entryReader key p v
  | .scalar s => if s.isBlank then return [] else .error s.misplaced
  | _ => .error .shape

/-- Read a path item. -/
def reader : Reader PathItem := entriesReader.map ofEntries

/-- The JSON object of a path item: operations stand beside the other fields. -/
def toJson (item : PathItem) : Json :=
  .object <|
    Json.optional "summary" .text item.summary ++
    Json.optional "description" .text item.description ++
    Json.unlessEmpty "parameters" parametersJson item.parameters ++
    item.operations.map fun (verb, o) => (verb.key, o.toJson)

end PathItem

end Document

end ApiMethods
