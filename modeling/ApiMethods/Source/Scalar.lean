/-
  ApiMethods.Source.Scalar — scalars of a document, and what a field can read off them.

  A document arrives as JSON or as YAML.  A JSON scalar has its type on its face; a YAML
  scalar is a text that each reader may take differently: a text field takes `3.0` as it
  stands, a truth field wants `true`, and a field of any type has to decide what the
  scalar stands for.  `Scalar` holds both forms, and each function below is one way of
  looking at a scalar, with the fault it meets when the look fails.
-/
import ApiMethods.Yaml.Plain

namespace ApiMethods.Source

/-! ## §1. Faults -/

/-- Why a document cannot be read: its text is malformed, or a value has the wrong shape. -/
inductive Fault
  | malformed
  | shape
deriving Repr, DecidableEq

/-- The message of a fault. -/
def Fault.message : Fault → String
  | .malformed => "malformed text"
  | .shape => "unexpected shape"

/-! ## §2. Typed scalars -/

/-- A scalar whose type is known.  `notFinite` stands for the fractions without a value. -/
inductive Prim
  | null
  | bool (b : Bool)
  | number (n : Number.Value)
  | notFinite
  | text (s : String)
deriving Repr, DecidableEq

/-! ## §3. Scalars as written -/

/-- How a YAML scalar is written. -/
inductive Style
  | plain
  | literal
  | quoted
deriving Repr, DecidableEq

/-- The tag of a YAML node.  `foreign` is any global tag without a meaning here; a local tag has
    a name. -/
inductive Tag
  | none
  | null
  | bool
  | int
  | float
  | foreign
  | named (name : String)
deriving Repr, DecidableEq

/-- Whether a tag is a local one. -/
def Tag.isNamed : Tag → Bool
  | .named _ => true
  | _ => false

/-- A scalar of a document.  `unreadable` is a JSON literal without a value: a number out of
    range, or a string with half a surrogate pair.  `absent` stands for an empty document. -/
inductive Scalar
  | typed (p : Prim)
  | unreadable
  | written (text : String) (style : Style) (tag : Tag)
  | absent
deriving Repr, DecidableEq

namespace Scalar

/-! ## §4. The type of a written scalar -/

/-- A whole number in range, else a fault. -/
def primOfWhole (n : Int) : Except Fault Prim :=
  if Number.Value.inRange n then .ok (.number (.whole n)) else .error .shape

/-- The typed form of a fraction. -/
def primOfFraction : Yaml.Plain.Fraction → Prim
  | .finite x => .number (.fraction x)
  | .notFinite => .notFinite

/-- The typed form of a plain scalar. -/
def primOfPlain (s : String) : Except Fault Prim :=
  match Yaml.Plain.meaning s with
  | .null => .ok .null
  | .bool b => .ok (.bool b)
  | .whole n => primOfWhole n
  | .fraction x => .ok (primOfFraction x)
  | .text => .ok (.text s)

/-- The typed form of a written scalar: its tag decides, and without one its style. -/
def primOfWritten (s : String) (style : Style) : Tag → Except Fault Prim
  | .null => if Yaml.Plain.isNull s then .ok .null else .error .shape
  | .bool => match Yaml.Plain.bool? s with
    | some b => .ok (.bool b)
    | none => .error .shape
  | .int => match Yaml.Plain.wideWhole? s with
    | some n => primOfWhole n
    | none => .error .shape
  | .float => match Yaml.Plain.fraction? s with
    | some x => .ok (primOfFraction x)
    | none => .error .shape
  | .foreign => .ok (.text s)
  | .named _ => .error .shape
  | .none => if style = .plain then primOfPlain s else .ok (.text s)

/-! ## §5. Looks -/

/-- The type and value of a scalar. -/
def prim : Scalar → Except Fault Prim
  | typed p => .ok p
  | unreadable => .error .malformed
  | written s style tag => primOfWritten s style tag
  | absent => .ok .null

/-- What a text field reads: any written scalar as it stands, or a typed text. -/
def text : Scalar → Except Fault String
  | typed (.text s) => .ok s
  | typed _ => .error .shape
  | unreadable => .error .malformed
  | written s _ _ => .ok s
  | absent => .error .shape

/-- What a truth field reads. -/
def bool : Scalar → Except Fault Bool
  | typed (.bool b) => .ok b
  | typed _ => .error .shape
  | unreadable => .error .malformed
  | written s style tag =>
    if style = .plain ∨ (style = .literal ∧ tag = .bool) then
      match Yaml.Plain.bool? s with
      | some b => .ok b
      | none => .error .shape
    else .error .shape
  | absent => .error .shape

/-- Whether an optional field counts as left out. -/
def isNothing : Scalar → Except Fault Bool
  | typed p => .ok (p = .null)
  | unreadable => .ok false
  | written s style tag =>
    if style ≠ .plain then .ok false
    else match tag with
      | .none => .ok (s.isEmpty || Yaml.Plain.isNull s)
      | .null => if Yaml.Plain.isNull s then .ok true else .error .shape
      | _ => .ok false
  | absent => .ok true

/-- Whether the scalar stands for an empty list, map or record: nothing is written at all. -/
def isBlank : Scalar → Bool
  | written s style _ => s.isEmpty && style = .plain
  | absent => true
  | _ => false

/-- The name of a choice: the scalar itself, or the local tag of a scalar without content. -/
def choice : Scalar → Except Fault String
  | typed (.text s) => .ok s
  | typed _ => .error .malformed
  | unreadable => .error .malformed
  | written s style (.named name) =>
    if style = .plain ∧ (s.isEmpty ∨ Yaml.Plain.isNull s) then .ok name else .error .shape
  | written s _ _ => .ok s
  | absent => .error .shape

/-- A field of a record is named, or numbered by its place. -/
inductive FieldKey
  | name (s : String)
  | place (n : Nat)
deriving Repr, DecidableEq

/-- What a record reads as the key of a field. -/
def fieldKey : Scalar → Except Fault FieldKey
  | typed (.text s) => .ok (.name s)
  | typed (.number (.whole n)) => if 0 ≤ n then .ok (.place n.toNat) else .error .shape
  | typed _ => .error .shape
  | unreadable => .error .malformed
  | written s _ _ => .ok (.name s)
  | absent => .error .shape

end Scalar

end ApiMethods.Source
