/-
  ApiMethods.Types.Basic — the types of values that methods take and give.

  A type may have parts that are not known: a reference that has not become a model, or a
  shape that could not be made out.  `isResolved` says that there are none, and `degrade`
  puts the type of any value in their place.
-/
import ApiMethods.Json.Basic
import ApiMethods.Table

namespace ApiMethods

/-- The types of simple values. -/
inductive Primitive
  | string
  | integer
  | number
  | boolean
  | dateTime
  | binary
deriving Repr, DecidableEq

/-- The name of a simple type. -/
def Primitive.text : Primitive → String
  | .string => "string"
  | .integer => "integer"
  | .number => "number"
  | .boolean => "boolean"
  | .dateTime => "date_time"
  | .binary => "binary"

/-- A type.  An object without properties is a map from texts to anything. -/
inductive ValueType
  | primitive (p : Primitive)
  | array (items : ValueType)
  | object (properties : List (String × ValueType))
  | ref (target : String)
  | model (name : String)
  | any
  | unresolved
deriving Repr

namespace ValueType

/-- A simple type that stands for texts. -/
def string : ValueType := .primitive .string

/-- The type of maps. -/
def map : ValueType := .object []

/-! ## §1. Parts that are not known -/

/-- Whether the type has parts. -/
def isComposite : ValueType → Bool
  | .array _ => true
  | .object _ => true
  | _ => false

/-- Whether the type itself is not known. -/
def isUnknown : ValueType → Bool
  | .unresolved => true
  | .ref _ => true
  | _ => false

mutual

/-- Whether no part is unknown. -/
def isResolved : ValueType → Bool
  | .unresolved => false
  | .ref _ => false
  | .array items => isResolved items
  | .object properties => areResolved properties
  | .primitive _ => true
  | .model _ => true
  | .any => true

/-- `isResolved` for every property. -/
def areResolved : List (String × ValueType) → Bool
  | [] => true
  | (_, t) :: rest => isResolved t && areResolved rest

end

mutual

/-- The type with every unknown part replaced by the type of any value. -/
def degrade : ValueType → ValueType
  | .unresolved => .any
  | .ref _ => .any
  | .array items => .array (degrade items)
  | .object properties => .object (degradeAll properties)
  | .primitive p => .primitive p
  | .model name => .model name
  | .any => .any

/-- `degrade` for every property. -/
def degradeAll : List (String × ValueType) → List (String × ValueType)
  | [] => []
  | (k, t) :: rest => (k, degrade t) :: degradeAll rest

end

/-! ## §2. Writing -/

/-- A type with a content, or without. -/
def tagged (kind : String) (content : Option Json) : Json :=
  .object (Json.field "kind" (.text kind) ++ Json.optional "of" id content)

mutual

/-- The JSON object of a type. -/
def toJson : ValueType → Json
  | .primitive p => tagged "primitive" (some (.text p.text))
  | .array items => tagged "array" (some (toJson items))
  | .object properties => tagged "object" (some (.object (toJsonAll properties)))
  | .ref target => tagged "ref" (some (.text target))
  | .model name => tagged "model" (some (.text name))
  | .any => tagged "any" none
  | .unresolved => tagged "unresolved" none

/-- The JSON values of properties. -/
def toJsonAll : List (String × ValueType) → List (String × Json)
  | [] => []
  | (k, t) :: rest => (k, toJson t) :: toJsonAll rest

end

end ValueType

end ApiMethods
