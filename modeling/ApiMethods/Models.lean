/-
  ApiMethods.Models — where the names of model types come from.

  Bodies may refer to schemas that some other program turns into types.  A source of models
  says which type a reference means, whether a type is a model of its own, and where it is
  imported from.  `none` knows no model; `ofDocument` takes the named schemas of a document.
-/
import ApiMethods.Document.Basic
import ApiMethods.Name.Basic
import ApiMethods.Reference.Name
import ApiMethods.Types.OfSchema

namespace ApiMethods

open Document (Schema SchemaBody)

/-- A source of models.  What a type is imported from is a path, and a text stands for it up to the
    equality of paths, which compares them component by component: a source writes each path in
    one way, as `ofDocument` does, which puts every file into the same directory. -/
structure Models where
  typeOf? : (target : String) → Option String
  importOf? : (type : String) → Option String
  isModel : (type : String) → Bool

namespace Models

/-! ## §1. Sources -/

/-- The source that knows no model. -/
def none : Models := ⟨fun _ => .none, fun _ => .none, fun _ => false⟩

/-- A named schema as a model: the stem of its file, and whether it describes objects. -/
structure Entry where
  stem : String
  isObject : Bool
deriving Repr, DecidableEq

/-- Whether a body describes objects. -/
def describesObject {σ : Type} (b : SchemaBody σ) : Bool :=
  match b.type with
  | some (.one t) => t = .object
  | some (.several ts) => ts.contains .object
  | .none => !b.properties.isEmpty || !b.allOf.isEmpty

/-- Whether a schema describes objects. -/
def isObjectLike (s : Schema) : Bool := (s.body?.map describesObject).getD false

/-- The named schemas of a document by the type they become. -/
def entries (d : Document) : Table String Entry :=
  Table.ofEntries (d.schemas.map fun (name, s) =>
    ((Name.of name).pascal, ⟨(Name.of name).snake, isObjectLike s⟩))

/-- A file in a directory. -/
def pathIn (dir stem : String) : String :=
  if dir.isEmpty ∨ dir.toList.getLast? = some '/' then dir ++ stem else dir ++ "/" ++ stem

/-- The source that knows the entries of a table, imported from a directory. -/
def ofEntries (table : Table String Entry) (dir : String) : Models where
  typeOf? target := do
    let name ← Reference.name? "schemas" target
    let type := (Name.of name).pascal
    if table.has type then some type else .none
  importOf? type := (table.get? type).map fun e => pathIn dir e.stem
  isModel type := ((table.get? type).map (·.isObject)).getD false

/-- The named schemas of a document, imported from a directory. -/
def ofDocument (d : Document) (dir : String) : Models := ofEntries (entries d) dir

/-! ## §2. Models of bodies -/

/-- The reference of a body schema, and whether it is that of the items of a list. -/
def reference? : Schema → Option (String × Bool)
  | .ref target => some (target, false)
  | .inline b => match b.type, b.items with
    | some (.one .array), some (.ref target) => some (target, true)
    | .none, some (.ref target) => some (target, true)
    | _, _ => .none

/-- A model, and whether a body is a list of it. -/
structure Found where
  type : String
  isList : Bool
deriving Repr, DecidableEq

/-- The model that a body schema means. -/
def find? (m : Models) (s : Schema) : Option Found := do
  let (target, isList) ← reference? s
  let type ← m.typeOf? target
  return ⟨type, isList⟩

end Models

end ApiMethods
