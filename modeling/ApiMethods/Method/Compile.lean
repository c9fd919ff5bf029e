/-
  ApiMethods.Method.Compile — the methods of a document.

  References are replaced first.  Then the operations are compiled in the order of
  declaration, and what each of them yields is added to what is there: an operation becomes
  a method or is left out for the first rule that it breaks.
-/
import ApiMethods.Argument.Build
import ApiMethods.Method.Basic
import ApiMethods.Name.Identifier
import ApiMethods.Name.Route
import ApiMethods.Reference.Resolve
import ApiMethods.Reply.Classify

namespace ApiMethods

open ApiMethods.Source (OrRef)
open Document (Operation PathItem RequestBody MediaType Parameter Requirements)

/-! ## §1. Options -/

/-- What can be chosen for a compilation: other names for methods, names for operations without an
    id, and generic credentials with their header. -/
structure Options where
  aliases : Table String String := []
  deriveMissingIds : Bool := false
  legacyFallback : Bool := true
  apiKeyHeader : String := "X-API-Key"
deriving Repr, DecidableEq

namespace Method

/-! ## §2. One operation -/

/-- What an operation may look at beside itself. -/
structure Context where
  options : Options
  models : Models
  catalog : Auth.Catalog
  security : Option Requirements
  consumes : List String

/-- What the operations of a document may look at. -/
def Context.of (d : Document) (models : Models) (options : Options) : Context :=
  ⟨options, models, .ofDocument d, d.security, d.consumes⟩

/-- The id of an operation as an identifier. -/
def identifierOf (o : Options) (path : String) (verb : Verb) (op : Operation) :
    Except SkipReason String :=
  match op.operationId with
  | some id => match Name.identifier? id with
    | some id => .ok id
    | none => .error (.invalidOperationId id)
  | none =>
    if o.deriveMissingIds then .ok (Name.ofRoute verb.text path) else .error .missingOperationId

/-- The name of the method with an id: its alias, if that is an identifier. -/
def nameOf (o : Options) (id : String) : Name :=
  .of (((o.aliases.get? id).bind Name.identifier?).getD id)

/-- The media types of a body in the older form. -/
def consumed (document : List String) (op : Operation) : List String :=
  if !op.consumes.isEmpty then op.consumes
  else if !document.isEmpty then document
  else ["application/json"]

/-- The request body that a parameter in the older form means. -/
def bodyOfParameter (mediaTypes : List String) (p : Parameter) : RequestBody where
  description := p.description
  content := Table.ofEntries (mediaTypes.map fun t => (t, { schema := p.schema }))
  required := p.required.getD false

/-- The request body of an operation. -/
def requestBody (consumes : List String) (op : Operation) (older : Option Parameter) :
    Except SkipReason (Option RequestBody) :=
  match op.requestBody with
  | some (.inline b) => .ok (some b)
  | some (.ref target) => .error (.unresolvedReference target)
  | none => .ok (older.map (bodyOfParameter (consumed consumes op)))

/-- The plan for a request body, if the verb admits one and it has content. -/
def bodyPlan (models : Models) (verb : Verb) :
    Option RequestBody → Except SkipReason (Option Body.Plan)
  | none => .ok none
  | some b =>
    if !verb.acceptsBody then .error (.requestBodyNotAllowed verb)
    else match Body.plan models b with
      | some p => .ok (some p)
      | none => .error (.missingRequestBody verb)

/-- The authentication of an operation. -/
def authPlan (c : Context) (op : Operation) (args : Arguments) : Auth.Plan :=
  let header := if c.options.legacyFallback && op.security.isNone then
    some c.options.apiKeyHeader else none
  Auth.plan (Auth.effective c.security op.security) c.catalog args header

/-- The method of an operation, or the first reason to leave it out. -/
def compile (c : Context) (path : String) (item : PathItem) (verb : Verb) (op : Operation) :
    Except SkipReason Method := do
  let id ← identifierOf c.options path verb op
  let merged ← Argument.Merged.of item.parameters op.parameters
  let args ← Argument.buildAll merged
  let template ← Path.template path args.path
  let declared ← requestBody c.consumes op merged.body
  let body ← bodyPlan c.models verb declared
  let reply ← Reply.classify c.models op.responses
  return {
    name := nameOf c.options id
    operationId := id
    verb := verb
    path := template
    arguments := args
    body := body
    reply := reply
    auth := authPlan c op args
    paginated := args.isPaginated
    summary := op.summary
    description := op.description
    tags := op.tags
    deprecated := op.deprecated.getD false }

/-! ## §3. What one operation contributes -/

/-- The issues of a method. -/
def issues (m : Method) : List Issue :=
  (if 0 < m.auth.ignoredAlternatives then
    [Issue.alternativesIgnored m.path.raw m.verb m.auth.ignoredAlternatives] else []) ++
  m.auth.unknownSchemes.map (Issue.schemeUndeclared m.path.raw m.verb) ++
  (match m.body with
    | some b => if b.approximate then
        [Issue.bodyApproximated m.path.raw m.verb b.content.selected] else []
    | none => [])

/-- The imports of a method. -/
def imports (models : Models) (m : Method) : List String :=
  m.models.filterMap fun type => if models.isModel type then models.importOf? type else none

end Method

/-! ## §4. All operations -/

namespace Compilation

/-- The issues of a catalog. -/
def catalogIssues (c : Auth.Catalog) : List Issue :=
  c.rejected.map fun (name, reason) => .schemeIgnored c.home name reason

/-- What a compilation yields before its first operation. -/
def start (c : Auth.Catalog) : Compilation := ⟨[], [], [], catalogIssues c⟩

/-- Add an import, unless it is there already.  Two texts are taken for two paths (see `Models`). -/
def addImport (imports : List String) (file : String) : List String :=
  if file ∈ imports then imports else imports ++ [file]

/-- Add a method with its imports and issues. -/
def addMethod (models : Models) (out : Compilation) (m : Method) : Compilation where
  methods := out.methods ++ [m]
  imports := (m.imports models).foldl addImport out.imports
  skipped := out.skipped
  issues := out.issues ++ m.issues

/-- Add an operation that was left out, with its issue. -/
def addSkipped (out : Compilation) (s : Skipped) : Compilation where
  methods := out.methods
  imports := out.imports
  skipped := out.skipped ++ [s]
  issues := out.issues ++ [.skipped s.path s.verb s.reason]

/-- Compile an operation and add what becomes of it. -/
def addOperation (c : Method.Context) (path : String) (item : PathItem) (out : Compilation)
    (e : Verb × Operation) : Compilation :=
  match Method.compile c path item e.1 e.2 with
  | .ok m => out.addMethod c.models m
  | .error reason => out.addSkipped ⟨e.1, path, reason⟩

/-- Add the operations under a path, one after the other. -/
def addItem (c : Method.Context) (out : Compilation) (e : String × PathItem) : Compilation :=
  e.2.operations.foldl (addOperation c e.1 e.2) out

end Compilation

namespace Document

/-- Why a document cannot be compiled at all. -/
inductive CompileError
  | missingPaths
deriving Repr, DecidableEq

/-- The message of an error. -/
def CompileError.message : CompileError → String
  | .missingPaths => "document has no \x60paths\x60 object"

/-- The methods of a document, once its references are replaced: its operations are compiled in the
    order of declaration, path by path. -/
def compile (d : Document) (models : Models) (options : Options) :
    Except CompileError Compilation :=
  let d := d.resolve
  let c := Method.Context.of d models options
  match d.paths with
  | some ps => .ok (ps.foldl (Compilation.addItem c) (.start c.catalog))
  | none => .error .missingPaths

end Document

end ApiMethods
