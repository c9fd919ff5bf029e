/-
  ApiMethods.Skip — why an operation has no method.

  One operation that cannot be compiled does not spoil the others: it is left out, with a
  reason.
-/
import ApiMethods.Document.Operation

namespace ApiMethods

/-- The reasons for leaving an operation out. -/
inductive SkipReason
  | missingOperationId
  | invalidOperationId (id : String)
  | unresolvedReference (target : String)
  | pathParameterWithoutSchema (name : String)
  | pathParameterNotRequired (name : String)
  | unresolvedPathParameterType (name : String)
  | unresolvedParameterType (name : String) (location : Location)
  | undeclaredPlaceholder (name : String)
  | unusedPathParameter (name : String)
  | duplicatePlaceholder (name : String)
  | missingRequestBody (verb : Verb)
  | requestBodyNotAllowed (verb : Verb)
deriving Repr, DecidableEq

/-- The message of a reason. -/
def SkipReason.message : SkipReason → String
  | .missingOperationId => "operation has no operationId"
  | .invalidOperationId id =>
    "operationId \x60" ++ id ++ "\x60 does not sanitize to a valid identifier"
  | .unresolvedReference target => "unresolved reference \x60" ++ target ++ "\x60"
  | .pathParameterWithoutSchema name => "path parameter \x60" ++ name ++ "\x60 has no schema"
  | .pathParameterNotRequired name =>
    "path parameter \x60" ++ name ++ "\x60 is declared as not required"
  | .unresolvedPathParameterType name =>
    "path parameter \x60" ++ name ++ "\x60 does not resolve to a supported type"
  | .unresolvedParameterType name location =>
    location.text ++ " parameter \x60" ++ name ++ "\x60 does not resolve to a supported type"
  | .undeclaredPlaceholder name =>
    "path placeholder \x60\x7b" ++ name ++ "\x7d\x60 has no matching path parameter"
  | .unusedPathParameter name =>
    "path parameter \x60" ++ name ++ "\x60 has no matching placeholder in the path"
  | .duplicatePlaceholder name =>
    "path placeholder \x60\x7b" ++ name ++ "\x7d\x60 appears more than once"
  | .missingRequestBody verb => verb.text ++ " declares a request body without any content"
  | .requestBodyNotAllowed verb => verb.text ++ " operations may not declare a request body"

end ApiMethods
