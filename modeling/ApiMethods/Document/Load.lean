/-
  ApiMethods.Document.Load — documents as they are admitted.

  A text is admitted when it has the shape of a document and declares a version that is
  understood: any 3.x under `openapi`, or 2.0 under `swagger` when `openapi` is missing.
-/
import ApiMethods.Document.Basic
import ApiMethods.Source.Text

namespace ApiMethods.Document

open ApiMethods.Source (Fault Format)

/-- Why a document is not admitted. -/
inductive LoadError
  | unreadable (format : Format) (fault : Fault)
  | unsupportedVersion (version : String)
  | missingField (name : String)
deriving Repr, DecidableEq

/-- The message of an error. -/
def LoadError.message : LoadError → String
  | .unreadable .json fault => "failed to parse JSON: " ++ fault.message
  | .unreadable .yaml fault => "failed to parse YAML: " ++ fault.message
  | .unsupportedVersion v => "unsupported OpenAPI version: " ++ v
  | .missingField name => "missing required field: " ++ name

/-- Whether a version of the field `openapi` is understood. -/
def isVersion3 (v : String) : Bool := "3.".toList.isPrefixOf v.toList

/-- The document itself, if its version is understood. -/
def checkVersion (d : Document) : Except LoadError Document :=
  match d.openapi, d.swagger with
  | some v, _ => if isVersion3 v then .ok d else .error (.unsupportedVersion v)
  | none, some v => if v = "2.0" then .ok d else .error (.unsupportedVersion v)
  | none, none => .error (.missingField "openapi")

/-- The document of a text. -/
def load (f : Format) (text : String) : Except LoadError Document :=
  match f.read reader text with
  | .ok d => d.checkVersion
  | .error fault => .error (.unreadable f fault)

end ApiMethods.Document
