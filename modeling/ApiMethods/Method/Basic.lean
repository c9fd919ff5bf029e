/-
  ApiMethods.Method.Basic — methods, and what a compilation yields.

  A method is an operation made ready for a generator of client code.  A compilation yields
  the methods of a document in the order of declaration, the operations that were left out,
  the imports of the models in use, and what its author should know.
-/
import ApiMethods.Auth.Plan
import ApiMethods.Body.Plan
import ApiMethods.Path.Template
import ApiMethods.Reference.Pointer
import ApiMethods.Reply.Basic

namespace ApiMethods

/-! ## §1. Methods -/

/-- A compiled operation. -/
structure Method where
  name : Name
  operationId : String
  verb : Verb
  path : Path.Template
  arguments : Arguments
  body : Option Body.Plan
  reply : Reply
  auth : Auth.Plan
  paginated : Bool
  summary : Option String
  description : Option String
  tags : List String
  deprecated : Bool
deriving Repr

namespace Method

/-- The models that a method uses: that of its request and that of its answer. -/
def models (m : Method) : List String :=
  (match m.body.map (·.payload) with
    | some (.model type _) => [type]
    | _ => []) ++ m.reply.model.toList

/-- The JSON object of a method. -/
def toJson (m : Method) : Json :=
  .object <|
    Json.field "name" m.name.toJson ++
    Json.field "operation_id" (.text m.operationId) ++
    Json.field "method" (.text m.verb.key) ++
    Json.field "path" m.path.toJson ++
    Json.field "parameters" m.arguments.toJson ++
    Json.optional "request_body" Body.Plan.toJson m.body ++
    Json.field "response" m.reply.toJson ++
    Json.field "security" m.auth.toJson ++
    Json.field "paginated" (.bool m.paginated) ++
    Json.optional "summary" .text m.summary ++
    Json.optional "description" .text m.description ++
    Json.unlessEmpty "tags" Json.texts m.tags ++
    Json.field "deprecated" (.bool m.deprecated)

end Method

/-! ## §2. Issues -/

/-- An operation that was left out. -/
structure Skipped where
  verb : Verb
  path : String
  reason : SkipReason
deriving Repr, DecidableEq

/-- The JSON object of an operation that was left out. -/
def Skipped.toJson (s : Skipped) : Json :=
  .object [("method", .text s.verb.key), ("path", .text s.path), ("reason", .text s.reason.message)]

/-- What the author of a document should know. -/
inductive Issue
  | schemeIgnored (home : List String) (name : String) (reason : Auth.Rejection)
  | skipped (path : String) (verb : Verb) (reason : SkipReason)
  | alternativesIgnored (path : String) (verb : Verb) (count : Nat)
  | schemeUndeclared (path : String) (verb : Verb) (name : String)
  | bodyApproximated (path : String) (verb : Verb) (mediaType : String)
deriving Repr, DecidableEq

namespace Issue

/-- How grave an issue is. -/
def severity : Issue → String
  | schemeIgnored _ _ _ => "warning"
  | skipped _ _ _ => "warning"
  | alternativesIgnored _ _ _ => "info"
  | schemeUndeclared _ _ _ => "warning"
  | bodyApproximated _ _ _ => "info"

/-- The message of an issue. -/
def message : Issue → String
  | schemeIgnored _ name reason =>
    "security scheme \x60" ++ name ++ "\x60 ignored: " ++ reason.message
  | skipped _ _ reason => "skipped: " ++ reason.message
  | alternativesIgnored _ _ count =>
    toString count ++ " alternative security requirement(s) ignored; only the first is used"
  | schemeUndeclared _ _ name => "security scheme \x60" ++ name ++ "\x60 is not declared"
  | bodyApproximated _ _ mediaType => "\x60" ++ mediaType ++ "\x60 body is encoded as JSON"

/-- The keys that lead to an operation. -/
def operationKeys (path : String) (verb : Verb) : List String := ["paths", path, verb.key]

/-- The keys that lead to what an issue is about. -/
def keys : Issue → List String
  | schemeIgnored home name _ => home ++ [name]
  | skipped path verb _ => operationKeys path verb
  | alternativesIgnored path verb _ => operationKeys path verb ++ ["security"]
  | schemeUndeclared path verb _ => operationKeys path verb ++ ["security"]
  | bodyApproximated path verb _ => operationKeys path verb ++ ["requestBody"]

/-- The pointer to what an issue is about. -/
def pointer (i : Issue) : String := Reference.Pointer.ofKeys i.keys

/-- The JSON object of an issue. -/
def toJson (i : Issue) : Json :=
  .object [("severity", .text i.severity), ("message", .text i.message),
    ("spec_path", .text i.pointer)]

end Issue

/-! ## §3. Compilations -/

/-- What a compilation yields. -/
structure Compilation where
  methods : List Method
  imports : List String
  skipped : List Skipped
  issues : List Issue
deriving Repr

/-- The JSON object of a compilation. -/
def Compilation.toJson (c : Compilation) : Json :=
  .object [("methods", .list (c.methods.map Method.toJson)), ("imports", Json.texts c.imports),
    ("skipped", .list (c.skipped.map Skipped.toJson)),
    ("issues", .list (c.issues.map Issue.toJson))]

end ApiMethods
