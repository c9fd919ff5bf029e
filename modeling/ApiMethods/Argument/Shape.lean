/-
  ApiMethods.Argument.Shape — how values of many parts travel in a request.

  A style says how the parts of a list or object are joined, and whether they EXPLODE into
  entries of their own.  From style, place and type follows a SHAPE.  Only the query string
  can hold several entries for one argument; elsewhere such shapes become one text.
-/
import ApiMethods.Document.Parameter
import ApiMethods.Types.Basic

namespace ApiMethods.Argument

/-! ## §1. Styles -/

/-- The styles of joining. -/
inductive Style
  | simple
  | form
  | spaceDelimited
  | pipeDelimited
  | deepObject
  | label
  | matrix
deriving Repr, DecidableEq

namespace Style

/-- The name of a style. -/
def text : Style → String
  | .simple => "simple"
  | .form => "form"
  | .spaceDelimited => "spaceDelimited"
  | .pipeDelimited => "pipeDelimited"
  | .deepObject => "deepObject"
  | .label => "label"
  | .matrix => "matrix"

/-- The style with a name. -/
def ofText? : String → Option Style
  | "simple" => some .simple
  | "form" => some .form
  | "spaceDelimited" => some .spaceDelimited
  | "pipeDelimited" => some .pipeDelimited
  | "deepObject" => some .deepObject
  | "label" => some .label
  | "matrix" => some .matrix
  | _ => none

theorem ofText?_text (s : Style) : ofText? s.text = some s := by cases s <;> rfl

/-- A style is read by its name alone. -/
theorem ofText?_eq_some_iff {name : String} {s : Style} : ofText? name = some s ↔ name = s.text := by
  constructor
  · intro h
    unfold ofText? at h
    split at h <;> cases h <;> rfl
  · rintro rfl
    exact ofText?_text s

/-- The style of a place when none is declared. -/
def ofLocation : Location → Style
  | .query => .form
  | .cookie => .form
  | .path => .simple
  | .header => .simple

/-- Whether parts explode when nothing is declared. -/
def explodes (s : Style) : Bool := s = .form

end Style

/-! ## §2. Shapes -/

/-- What counts of a value: whether it is a list, an object, or neither. -/
inductive Kind
  | scalar
  | list
  | object
deriving Repr, DecidableEq

/-- The kind of the values of a type. -/
def Kind.ofType : ValueType → Kind
  | .array _ => .list
  | .object _ => .object
  | _ => .scalar

/-- How a value is laid out: as one text, its items joined or under a repeated key, or its
    properties under keys of their own or joined. -/
inductive Shape
  | scalar
  | joined (separator : String)
  | repeatedKey
  | deepObject
  | flattenedProperties
  | keyValueList (separator : String)
  | keyValuePairs (separator : String)
deriving Repr, DecidableEq

namespace Shape

/-- Whether the shape has several entries. -/
def isMultiEntry : Shape → Bool
  | .repeatedKey => true
  | .deepObject => true
  | .flattenedProperties => true
  | _ => false

/-- The shape where several entries are possible. -/
def free : Kind → Style → (explode : Bool) → Shape
  | .scalar, _, _ => .scalar
  | .list, .spaceDelimited, _ => .joined " "
  | .list, .pipeDelimited, _ => .joined "|"
  | .list, .form, true => .repeatedKey
  | .list, _, _ => .joined ","
  | .object, .deepObject, _ => .deepObject
  | .object, .form, true => .flattenedProperties
  | .object, .simple, true => .keyValuePairs ","
  | .object, _, _ => .keyValueList ","

/-- The shape as one entry. -/
def single : Shape → Shape
  | .repeatedKey => .joined ","
  | .deepObject => .keyValuePairs ","
  | .flattenedProperties => .keyValuePairs ","
  | s => s

/-- The shape of values of a kind in a place. -/
def inLocation (location : Location) (kind : Kind) (style : Style) (explode : Bool) : Shape :=
  if location = .query then free kind style explode else (free kind style explode).single

/-- The JSON object of a shape. -/
def toJson : Shape → Json
  | .scalar => .object [("shape", .text "scalar")]
  | .joined separator => .object [("shape", .text "joined"), ("separator", .text separator)]
  | .repeatedKey => .object [("shape", .text "repeated_key")]
  | .deepObject => .object [("shape", .text "deep_object")]
  | .flattenedProperties => .object [("shape", .text "flattened_properties")]
  | .keyValueList separator =>
    .object [("shape", .text "key_value_list"), ("separator", .text separator)]
  | .keyValuePairs separator =>
    .object [("shape", .text "key_value_pairs"), ("separator", .text separator)]

end Shape

/-! ## §3. Encodings -/

/-- The slot of a request that a place writes to. -/
def slotText : Location → String
  | .path => "path_segment"
  | .query => "query_string"
  | .header => "header"
  | .cookie => "cookie"

/-- How an argument is encoded. -/
structure Encoding where
  style : Style
  explode : Bool
  location : Location
  shape : Shape
deriving Repr, DecidableEq

namespace Encoding

/-- The encoding of values of a type. -/
def plan (location : Location) (style : Style) (explode : Bool) (type : ValueType) : Encoding :=
  ⟨style, explode, location, .inLocation location (.ofType type) style explode⟩

/-- The JSON object of an encoding. -/
def toJson (e : Encoding) : Json :=
  .object <|
    Json.field "style" (.text e.style.text) ++
    Json.field "explode" (.bool e.explode) ++
    Json.field "target" (.text (slotText e.location)) ++
    Json.field "shape" e.shape.toJson

end Encoding

end ApiMethods.Argument
