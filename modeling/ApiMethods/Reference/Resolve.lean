/-
  ApiMethods.Reference.Resolve — the document with its references replaced.

  References to parameters, request bodies, responses and headers are replaced by their
  targets, and the schemas of parameters and headers are inlined.  The schemas of request
  and response bodies keep their references, because a reference there names a model.  What
  points nowhere stays a reference.

  One set of references in progress serves the whole document: every part is worked on with
  the set that the part before it has left.
-/
import ApiMethods.Reference.Inline

namespace ApiMethods

open ApiMethods.Source (OrRef)
open Document (Schema Parameter Header RequestBody Response Operation PathItem)

/-- Work on a part of a document, with the references that are being replaced. -/
abbrev Inlining := StateM (List String)

namespace Inlining

/-! ## §1. References -/

/-- The value of a reference replaced by what it points at, if it points anywhere. -/
def target {α : Type} (lookup : String → Option α) : OrRef α → OrRef α
  | .inline a => .inline a
  | .ref r => match lookup r with
    | some a => .inline a
    | none => .ref r

/-- Work on a value that is there and keep a reference. -/
def onInline {α : Type} (f : α → Inlining α) : OrRef α → Inlining (OrRef α)
  | .inline a => do return .inline (← f a)
  | .ref r => return .ref r

/-- Work on every value of a table, in order. -/
def onValues {κ α : Type} (f : α → Inlining α) (t : Table κ α) : Inlining (Table κ α) :=
  t.mapM fun (k, a) => do return (k, ← f a)

/-! ## §2. Parts -/

/-- A schema with its references replaced. -/
def schema (d : Document) (s : Schema) : Inlining Schema := fun visited =>
  let r := d.inlineWith visited s
  (r.1, r.2.val)

/-- A parameter with its schema and items inlined; a body in the older form is kept. -/
def inlineParameter (d : Document) (p : Parameter) : Inlining Parameter :=
  if p.isBody then return p
  else do
    let value ← p.schema.mapM (schema d)
    let items ← p.items.mapM (schema d)
    return { p with schema := value, items := items }

/-- A parameter or the target of its reference, inlined. -/
def parameter (d : Document) (p : OrRef Parameter) : Inlining (OrRef Parameter) :=
  onInline (inlineParameter d) (target d.parameterAt? p)

/-- A header with its schema inlined. -/
def inlineHeader (d : Document) (h : Header) : Inlining Header := do
  let value ← h.schema.mapM (schema d)
  return { h with schema := value }

/-- A header or the target of its reference, inlined. -/
def header (d : Document) (h : OrRef Header) : Inlining (OrRef Header) :=
  onInline (inlineHeader d) (target d.headerAt? h)

/-- A response with its headers replaced. -/
def inlineResponse (d : Document) (r : Response) : Inlining Response := do
  let headers ← onValues (header d) r.headers
  return { r with headers := headers }

/-- A response or the target of its reference, with its headers replaced. -/
def response (d : Document) (r : OrRef Response) : Inlining (OrRef Response) :=
  onInline (inlineResponse d) (target d.responseAt? r)

/-! ## §3. The document -/

/-- An operation with its references replaced. -/
def operation (d : Document) (o : Operation) : Inlining Operation := do
  let parameters ← o.parameters.mapM (parameter d)
  let responses ← onValues (response d) o.responses
  return { o with
    parameters := parameters
    requestBody := o.requestBody.map (target d.bodyAt?)
    responses := responses }

/-- A path item with its references replaced. -/
def pathItem (d : Document) (item : PathItem) : Inlining PathItem := do
  let parameters ← item.parameters.mapM (parameter d)
  let operations ← onValues (operation d) item.operations
  return { item with parameters := parameters, operations := operations }

/-- A document with its references replaced. -/
def document (d : Document) : Inlining Document := do
  let paths ← d.paths.mapM (onValues (pathItem d))
  return { d with paths := paths }

end Inlining

/-- The document with its references replaced, where none is in progress to begin with. -/
def Document.resolve (d : Document) : Document := (Inlining.document d []).1

end ApiMethods
