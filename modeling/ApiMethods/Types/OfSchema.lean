/-
  ApiMethods.Types.OfSchema — the type that a schema describes.

  Choices between schemas are not modelled, except that a list `allOf` of one schema means
  that schema.  Without the keyword `type` the type is inferred from the other keywords.
  References stay references.
-/
import ApiMethods.Document.Schema
import ApiMethods.Types.Basic

namespace ApiMethods

open Document (Schema SchemaBody TypeName Additional)

namespace ValueType

/-! ## §1. Bodies whose parts are types -/

/-- The type of texts of a format. -/
def ofFormat : Option String → Primitive
  | some "date-time" => .dateTime
  | some "date" => .dateTime
  | some "binary" => .binary
  | some "byte" => .binary
  | _ => .string

/-- An array of the items that a body describes. -/
def arrayOf (b : SchemaBody ValueType) : ValueType := .array (b.items.getD .unresolved)

/-- An object with the properties that a body describes.  One that has none and may not have any is
    no type. -/
def objectOf (b : SchemaBody ValueType) : ValueType :=
  match b.properties, b.additional with
  | [], some (.allowed false) => .unresolved
  | properties, _ => .object properties

/-- The type of a body that names one type. -/
def ofNamed (b : SchemaBody ValueType) : TypeName → ValueType
  | .string => .primitive (ofFormat b.format)
  | .integer => .primitive .integer
  | .number => .primitive .number
  | .boolean => .primitive .boolean
  | .array => arrayOf b
  | .object => objectOf b
  | .null => .unresolved
  | .other _ => .unresolved

/-- The type of a body that names no type. -/
def inferred (b : SchemaBody ValueType) : ValueType :=
  if !b.properties.isEmpty || b.additional.isSome then objectOf b
  else if b.items.isSome then arrayOf b
  else if !b.choices.isEmpty && b.choices.all Json.isText then .string
  else .unresolved

/-- The type of a body by its keyword `type`; of several types all but one have to be `null`. -/
def ofTypeKeyword (b : SchemaBody ValueType) : ValueType :=
  match b.type with
  | some (.one t) => ofNamed b t
  | some (.several ts) => match ts.filter (· ≠ .null) with
    | [t] => ofNamed b t
    | _ => .unresolved
  | none => inferred b

/-- The type of a body. -/
def ofBody (b : SchemaBody ValueType) : ValueType :=
  if !b.oneOf.isEmpty || !b.anyOf.isEmpty then .unresolved
  else match b.allOf with
    | [] => ofTypeKeyword b
    | [only] => only
    | _ => .unresolved

/-! ## §2. Schemas -/

/-- The type of a schema. -/
def ofSchema : Schema → ValueType := Schema.fold .ref ofBody

/-- The type of a schema with its unknown parts degraded. -/
def generic (s : Schema) : ValueType := (ofSchema s).degrade

/-- The type of a scalar slot such as a response header: a text when nothing better is known. -/
def ofSlot (s : Option Schema) : ValueType :=
  match s.map ofSchema with
  | none => .string
  | some t => if t.isUnknown then .string else t

theorem ofSchema_ref (target : String) : ofSchema (.ref target) = .ref target := rfl

theorem ofSchema_inline (b : SchemaBody Schema) :
    ofSchema (.inline b) = ofBody (b.map ofSchema) := Schema.fold_inline _ _ b

end ValueType

end ApiMethods
