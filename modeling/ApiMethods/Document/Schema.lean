/-
  ApiMethods.Document.Schema — schemas, reduced to the keywords that decide a type.

  A schema is a reference or a BODY, a record of keywords some of which hold schemas again.
  The body is a record over an arbitrary type of parts, so that whatever is computed from a
  schema bottom-up (its JSON, its type) needs only to say what to do with a body whose parts
  are done: `Schema.fold` is the one recursion behind all of them.
-/
import ApiMethods.Json.Text
import ApiMethods.Source.Reader

namespace ApiMethods.Document

open ApiMethods.Source (Reader Fields OrRef)

/-! ## §1. The keyword `type` -/

/-- The name of a type.  A name without a meaning is kept, so that one odd schema does not spoil a
    document. -/
inductive TypeName
  | string
  | number
  | integer
  | boolean
  | array
  | object
  | null
  | other (name : String)
deriving Repr, DecidableEq

namespace TypeName

/-- The type with this name. -/
def ofText : String → TypeName
  | "string" => .string
  | "number" => .number
  | "integer" => .integer
  | "boolean" => .boolean
  | "array" => .array
  | "object" => .object
  | "null" => .null
  | name => .other name

/-- The name of a type. -/
def text : TypeName → String
  | .string => "string"
  | .number => "number"
  | .integer => "integer"
  | .boolean => "boolean"
  | .array => "array"
  | .object => "object"
  | .null => "null"
  | .other name => name

/-- Read a type by its name. -/
def reader : Reader TypeName := Reader.text.map ofText

/-- The JSON value of a type. -/
def toJson (t : TypeName) : Json := .text t.text

end TypeName

/-- The value of the keyword `type`: one type, or a list of alternatives. -/
inductive TypeSpec
  | one (type : TypeName)
  | several (types : List TypeName)
deriving Repr, DecidableEq

namespace TypeSpec

/-- Read one type or, failing that, a list of types. -/
def reader : Reader TypeSpec := fun p n => do
  let (p, n) ← Source.settled p n
  match TypeName.reader p n with
  | .ok t => return .one t
  | .error _ => (Reader.list TypeName.reader p n).map .several

/-- The JSON value of the keyword. -/
def toJson : TypeSpec → Json
  | .one t => t.toJson
  | .several ts => .list (ts.map TypeName.toJson)

end TypeSpec

/-! ## §2. Bodies -/

/-- What is known of properties that are not listed: whether there may be any, or their schema. -/
inductive Additional (σ : Type)
  | allowed (b : Bool)
  | schema (s : σ)
deriving Repr, DecidableEq

/-- The keywords of a schema whose parts have type `σ`. -/
structure SchemaBody (σ : Type) where
  type : Option TypeSpec := none
  format : Option String := none
  description : Option String := none
  nullable : Option Bool := none
  properties : List (String × σ) := []
  required : List String := []
  additional : Option (Additional σ) := none
  items : Option σ := none
  allOf : List σ := []
  oneOf : List σ := []
  anyOf : List σ := []
  choices : List Json := []
  defaultValue : Option Json := none
  sample : Option Json := none
deriving Repr

/-- Change the schema of additional properties. -/
def Additional.map {σ τ : Type} (f : σ → τ) : Additional σ → Additional τ
  | .allowed b => .allowed b
  | .schema s => .schema (f s)

/-- Change every part of a body. -/
def SchemaBody.map {σ τ : Type} (f : σ → τ) (b : SchemaBody σ) : SchemaBody τ where
  type := b.type
  format := b.format
  description := b.description
  nullable := b.nullable
  properties := Table.mapValues f b.properties
  required := b.required
  additional := b.additional.map (Additional.map f)
  items := b.items.map f
  allOf := b.allOf.map f
  oneOf := b.oneOf.map f
  anyOf := b.anyOf.map f
  choices := b.choices
  defaultValue := b.defaultValue
  sample := b.sample

/-- Change the parts that are values of the described value itself, its properties and items, and
    keep all other keywords. -/
def SchemaBody.mapMembers {σ : Type} (f : σ → σ) (b : SchemaBody σ) : SchemaBody σ :=
  { b with properties := Table.mapValues f b.properties, items := b.items.map f }

/-! ## §3. Schemas -/

/-- A schema: a reference to one, or its keywords. -/
inductive Schema
  | ref (target : String)
  | inline (body : SchemaBody Schema)
deriving Repr

namespace Schema

/-- The target, if the schema is a reference. -/
def target? : Schema → Option String
  | .ref target => some target
  | .inline _ => none

/-- The keywords, unless the schema is a reference. -/
def body? : Schema → Option (SchemaBody Schema)
  | .ref _ => none
  | .inline body => some body

section Fold

variable {α : Type} (ofRef : String → α) (ofBody : SchemaBody α → α)

mutual

/-- Compute a value bottom-up: from the target of a reference, or from a body whose parts have been
    computed. -/
def fold : Schema → α
  | .ref target => ofRef target
  | .inline body => ofBody (foldBody body)

/-- `fold` on every part of a body. -/
def foldBody : SchemaBody Schema → SchemaBody α
  | ⟨type, format, description, nullable, properties, required, additional, items, allOf, oneOf,
      anyOf, choices, defaultValue, sample⟩ =>
    ⟨type, format, description, nullable, foldTable properties, required,
      foldAdditional additional, foldOption items, foldList allOf, foldList oneOf, foldList anyOf,
      choices, defaultValue, sample⟩

/-- `fold` on every value. -/
def foldTable : List (String × Schema) → List (String × α)
  | [] => []
  | (k, s) :: rest => (k, fold s) :: foldTable rest

/-- `fold` on the schema of additional properties. -/
def foldAdditional : Option (Additional Schema) → Option (Additional α)
  | none => none
  | some (.allowed b) => some (.allowed b)
  | some (.schema s) => some (.schema (fold s))

/-- `fold` on a schema that may be there. -/
def foldOption : Option Schema → Option α
  | none => none
  | some s => some (fold s)

/-- `fold` on every schema. -/
def foldList : List Schema → List α
  | [] => []
  | s :: rest => fold s :: foldList rest

end

/-! ## §4. What folding does -/

theorem foldTable_eq (t : List (String × Schema)) :
    foldTable ofRef ofBody t = Table.mapValues (fold ofRef ofBody) t := by
  induction t with
  | nil => rfl
  | cons e rest ih =>
    obtain ⟨k, s⟩ := e
    simp only [foldTable, ih]
    rfl

theorem foldList_eq (l : List Schema) : foldList ofRef ofBody l = l.map (fold ofRef ofBody) := by
  induction l with
  | nil => rfl
  | cons s rest ih => simp [foldList, ih]

theorem foldOption_eq (o : Option Schema) :
    foldOption ofRef ofBody o = o.map (fold ofRef ofBody) := by
  cases o <;> rfl

theorem foldAdditional_eq (o : Option (Additional Schema)) :
    foldAdditional ofRef ofBody o = o.map (Additional.map (fold ofRef ofBody)) := by
  rcases o with _ | (_ | _) <;> rfl

theorem foldBody_eq (b : SchemaBody Schema) :
    foldBody ofRef ofBody b = b.map (fold ofRef ofBody) := by
  obtain ⟨_, _, _, _, _, _, _, _, _, _, _, _, _, _⟩ := b
  simp only [foldBody, SchemaBody.map, foldTable_eq, foldList_eq, foldOption_eq, foldAdditional_eq]

/-- Folding a body folds its parts first. -/
theorem fold_inline (b : SchemaBody Schema) :
    fold ofRef ofBody (.inline b) = ofBody (b.map (fold ofRef ofBody)) := by
  rw [fold, foldBody_eq]

end Fold

/-! ## §5. Replacing references

  A member of a schema is one of its properties or its items.  `substituteM` replaces the
  references among the schema, its members, their members and so on, one after the other in
  the order of the document, and leaves every other keyword as it is.  The step that
  replaces one reference may have effects. -/

section Substitute

variable {m : Type → Type} [Monad m] (f : String → m Schema)

mutual

/-- Replace the reference itself, or the references among the members at any depth. -/
def substituteM : Schema → m Schema
  | .ref target => f target
  | .inline body => do return .inline (← substituteBody body)

/-- `substituteM` on the members of a body. -/
def substituteBody : SchemaBody Schema → m (SchemaBody Schema)
  | ⟨type, format, description, nullable, properties, required, additional, items, allOf, oneOf,
      anyOf, choices, defaultValue, sample⟩ => do
    let properties ← substituteTable properties
    let items ← substituteOption items
    return ⟨type, format, description, nullable, properties, required, additional, items, allOf,
      oneOf, anyOf, choices, defaultValue, sample⟩

/-- `substituteM` on every value. -/
def substituteTable : List (String × Schema) → m (List (String × Schema))
  | [] => return []
  | (k, s) :: rest => do
    let s ← substituteM s
    let rest ← substituteTable rest
    return (k, s) :: rest

/-- `substituteM` on a schema that may be there. -/
def substituteOption : Option Schema → m (Option Schema)
  | none => return none
  | some s => do return some (← substituteM s)

end

theorem substituteM_ref (target : String) : substituteM f (.ref target) = f target := rfl

end Substitute

section Settled

variable {σ : Type} (f : String → StateM σ Schema) (st : σ)

theorem fst_substituteOption (o : Option Schema) :
    (substituteOption f o st).1 = o.map fun s => (substituteM f s st).1 := by
  cases o <;> rfl

-- From here on the state has one value only: the next step cannot see what this one did.
variable [Subsingleton σ]

theorem fst_substituteTable (t : List (String × Schema)) :
    (substituteTable f t st).1 = Table.mapValues (fun s => (substituteM f s st).1) t := by
  induction t with
  | nil => rfl
  | cons e rest ih =>
    obtain ⟨k, s⟩ := e
    show (k, (substituteM f s st).1) ::
        (substituteTable f rest (substituteM f s st).2).1 = _
    rw [Subsingleton.elim (substituteM f s st).2 st, ih]
    rfl

/-- With such a state the members of a schema are treated alike. -/
theorem fst_substituteM_inline (b : SchemaBody Schema) :
    (substituteM f (.inline b) st).1 =
      .inline (b.mapMembers fun s => (substituteM f s st).1) := by
  obtain ⟨type, format, description, nullable, properties, required, additional, items, allOf,
    oneOf, anyOf, choices, defaultValue, sample⟩ := b
  show Schema.inline ⟨type, format, description, nullable, (substituteTable f properties st).1,
      required, additional, (substituteOption f items (substituteTable f properties st).2).1, allOf,
      oneOf, anyOf, choices, defaultValue, sample⟩ = _
  rw [Subsingleton.elim (substituteTable f properties st).2 st, fst_substituteTable,
    fst_substituteOption]
  rfl

end Settled

/-! ## §6. Reading -/

/-- The keywords, in the order in which a schema written as a list has them. -/
def keywords : List String :=
  ["type", "format", "description", "nullable", "properties", "required", "additionalProperties",
    "items", "allOf", "oneOf", "anyOf", "enum", "default", "example"]

/-- Read what is known of additional properties: a truth value or, failing that, a schema. -/
def additionalReader {σ : Type} (r : Reader σ) : Reader (Additional σ) := fun p n => do
  let (p, n) ← Source.settled p n
  match Reader.bool p n with
  | .ok b => return .allowed b
  | .error _ => (r p n).map .schema

/-- Read a body, given how its parts are read. -/
def bodyReader {σ : Type} (r : Reader σ) : Reader (SchemaBody σ) := fun p n => do
  let f ← Fields.of keywords p n
  return {
    type := ← f.optional 0 TypeSpec.reader
    format := ← f.optional 1 Reader.text
    description := ← f.optional 2 Reader.text
    nullable := ← f.optional 3 Reader.bool
    properties := ← f.defaulted 4 [] (Reader.table r)
    required := ← f.defaulted 5 [] (Reader.list Reader.text)
    additional := ← f.optional 6 (additionalReader r)
    items := ← f.optional 7 r
    allOf := ← f.defaulted 8 [] (Reader.list r)
    oneOf := ← f.defaulted 9 [] (Reader.list r)
    anyOf := ← f.defaulted 10 [] (Reader.list r)
    choices := ← f.defaulted 11 [] (Reader.list Reader.json)
    defaultValue := ← f.optional 12 Reader.json
    sample := ← f.optional 13 Reader.json }

/-- Read a schema that nests at most so many times. -/
def readerWithin : Nat → Reader Schema
  | 0 => fun _ _ => .error .malformed
  | depth + 1 => Reader.orElseRef .ref ((bodyReader (readerWithin depth)).map .inline)

/-- Read a schema.  It cannot nest more often than there are levels left. -/
def reader : Reader Schema := fun p n => readerWithin (p.room + 1) p n

/-! ## §7. Writing -/

/-- The JSON value of what is known of additional properties. -/
def additionalJson : Additional Json → Json
  | .allowed b => .bool b
  | .schema v => v

/-- The JSON object of a body whose parts are JSON values. -/
def bodyJson (b : SchemaBody Json) : Json :=
  .object <|
    Json.optional "type" TypeSpec.toJson b.type ++
    Json.optional "format" .text b.format ++
    Json.optional "description" .text b.description ++
    Json.optional "nullable" .bool b.nullable ++
    Json.unlessEmpty "properties" .object b.properties ++
    Json.unlessEmpty "required" Json.texts b.required ++
    Json.optional "additionalProperties" additionalJson b.additional ++
    Json.optional "items" id b.items ++
    Json.unlessEmpty "allOf" .list b.allOf ++
    Json.unlessEmpty "oneOf" .list b.oneOf ++
    Json.unlessEmpty "anyOf" .list b.anyOf ++
    Json.unlessEmpty "enum" .list b.choices ++
    Json.optional "default" id b.defaultValue ++
    Json.optional "example" id b.sample

/-- The JSON value of a schema. -/
def toJson : Schema → Json := fold OrRef.refJson bodyJson

end Schema

/-- A schema that has nothing but a type, a format and items. -/
def Schema.ofType (type : TypeName) (format : Option String) (items : Option Schema) : Schema :=
  .inline { type := some (.one type), format := format, items := items }

/-- Whether a body says `type: string` and nothing about members. -/
def SchemaBody.isBareString {σ : Type} (b : SchemaBody σ) : Bool :=
  b.type = some (.one .string) && b.properties.isEmpty && b.items.isNone

end ApiMethods.Document
