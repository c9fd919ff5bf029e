/-
  ApiMethods.Argument.Encode — writing the value of an argument.

  The layout follows the VALUE: a list is laid out as a list and an object as an object,
  whatever the declared type, so an argument of any type is written like one of the type
  that its value has.
-/
import ApiMethods.Argument.Basic
import ApiMethods.Json.Text

namespace ApiMethods.Argument

/-! ## §1. Encoded values -/

/-- An encoded value: one text under one key, one key for several texts, or several keys. -/
inductive Encoded
  | single (key value : String)
  | repeated (key : String) (values : List String)
  | entries (pairs : List (String × String))
deriving Repr, DecidableEq

namespace Encoded

/-- The keys and texts. -/
def toEntries : Encoded → List (String × String)
  | single key value => [(key, value)]
  | repeated key values => values.map fun v => (key, v)
  | entries pairs => pairs

/-- The text, if there is only one. -/
def single? : Encoded → Option String
  | single _ value => some value
  | _ => none

end Encoded

/-! ## §2. Values -/

/-- The kind of a value. -/
def Kind.ofValue : Json → Kind
  | .list _ => .list
  | .object _ => .object
  | _ => .scalar

/-- A value as one text: texts as they are, nothing as the empty text, parts of parts as JSON. -/
def valueText : Json → String
  | .text s => s
  | .null => ""
  | .bool true => "true"
  | .bool false => "false"
  | v => v.compact

/-- The texts of properties. -/
def propertyTexts (entries : List (String × Json)) : List (String × String) :=
  entries.map fun e => (e.1, valueText e.2)

/-- A property and its text joined by an equals sign. -/
def pairText (p : String × String) : String := p.1 ++ "=" ++ p.2

/-! ## §3. Encoding -/

/-- Items laid out in a shape for lists. -/
def encodeItems (name : String) (shape : Shape) (items : List String) : Encoded :=
  match shape with
  | .repeatedKey => .repeated name items
  | .joined separator => .single name (separator.intercalate items)
  | _ => .single name (",".intercalate items)

/-- Properties laid out in a shape for objects. -/
def encodeProperties (name : String) (shape : Shape) (pairs : List (String × String))
    (v : Json) : Encoded :=
  match shape with
  | .deepObject => .entries (pairs.map fun p => (name ++ "[" ++ p.1 ++ "]", p.2))
  | .flattenedProperties => .entries pairs
  | .keyValuePairs separator => .single name (separator.intercalate (pairs.map pairText))
  | .keyValueList separator =>
    .single name (separator.intercalate (pairs.flatMap fun p => [p.1, p.2]))
  | _ => .single name v.compact

/-- A value under a name, in a place and a style. -/
def encodeValue (name : String) (location : Location) (style : Style) (explode : Bool)
    (v : Json) : Encoded :=
  match v with
  | .list items =>
    encodeItems name (.inLocation location .list style explode) (items.map valueText)
  | .object entries =>
    encodeProperties name (.inLocation location .object style explode) (propertyTexts entries) v
  | v => .single name (valueText v)

/-- The encoded value of an argument. -/
def encode (a : Argument) (v : Json) : Encoded := encodeValue a.name a.location a.style a.explode v

end ApiMethods.Argument
