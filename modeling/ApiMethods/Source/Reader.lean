/-
  ApiMethods.Source.Reader — reading records, lists and maps off a document tree.

  A reader looks at a node and yields a value or a fault.  The rules that all records of an
  API document share are stated once, here:

    * unknown fields are ignored, a known field given twice is a fault;
    * an optional field may be left out or be nothing; a field with a default may be left out,
      but when it is given it must have its shape;
    * in JSON, and in values that have been settled, a record may also be written as the list
      of its fields in their order; then only fields with a default may be missing at the end;
    * a map of names keeps the first place and the last value of a repeated name;
    * where a reference may stand for a value, an object with one text field `$ref` is the
      reference, and anything else is the value.
-/
import ApiMethods.Table
import ApiMethods.Source.Node

namespace ApiMethods.Source

/-! ## §1. Readers -/

/-- Where a node is read: its document, how many levels may still be entered, and whether the
    node has been settled. -/
structure Place where
  origin : Origin
  room : Nat
  settled : Bool
deriving Repr

namespace Place

/-- The root of a document. -/
def root (o : Origin) : Place := ⟨o, o.depthLimit, false⟩

/-- One level further in. -/
def inside (p : Place) : Except Fault Place :=
  if p.room = 0 then .error .malformed else .ok { p with room := p.room - 1 }

end Place

/-- Reads a value off a node. -/
abbrev Reader (α : Type) := Place → Node → Except Fault α

/-- The fault of a scalar that stands where something else is wanted. -/
def Scalar.misplaced : Scalar → Fault
  | .unreadable => .malformed
  | _ => .shape

namespace Reader

variable {α β : Type}

/-- Change what was read. -/
def map (f : α → β) (r : Reader α) : Reader β := fun p n => (r p n).map f

/-! ## §2. Scalars -/

/-- Read off a scalar. -/
def scalar (look : Scalar → Except Fault α) : Reader α := fun p n => do
  match ← p.origin.follow n with
  | .scalar s => look s
  | _ => .error .shape

/-- A text. -/
def text : Reader String := scalar Scalar.text

/-- A truth value. -/
def bool : Reader Bool := scalar Scalar.bool

/-- One of a fixed set of names.  JSON admits an object whose only entry is the name with
    `null`. -/
def choice (ofName : String → Option α) : Reader α := fun p n => do
  let chosen (name : String) : Except Fault α :=
    match ofName name with
    | some a => .ok a
    | none => .error .shape
  match p.origin.format, ← p.origin.follow n with
  | _, .scalar s => s.choice >>= chosen
  | .json, .map _ [(k, v)] => do
    let name ← text p k
    let a ← chosen name
    match v with
    | .scalar (.typed .null) => return a
    | .scalar s => .error s.misplaced
    | _ => .error .shape
  | .json, _ => .error .malformed
  | .yaml, _ => .error .shape

/-- A value, or nothing. -/
def option (r : Reader α) : Reader (Option α) := fun p n => do
  match ← p.origin.follow n with
  | .scalar s =>
    if ← s.isNothing then return none
    else (r p (.scalar s)).map some
  | n => (r p n).map some

/-! ## §3. Lists and maps -/

/-- A list.  A place left blank is the empty list. -/
def list (r : Reader α) : Reader (List α) := fun p n => do
  match ← p.origin.follow n with
  | .list _ items => do
    let p ← p.inside
    items.mapM (r p)
  | .scalar s => if s.isBlank then return [] else .error s.misplaced
  | _ => .error .shape

/-- The entries of a map, in the order of the document.  A place left blank is the empty map. -/
def entries (key : Reader α) (r : Reader β) : Reader (List (α × β)) := fun p n => do
  match ← p.origin.follow n with
  | .map _ entries => do
    let p ← p.inside
    entries.mapM fun (k, v) => do
      let k ← key p k
      let v ← r p v
      return (k, v)
  | .scalar s => if s.isBlank then return [] else .error s.misplaced
  | _ => .error .shape

/-- A map from names: of a repeated name the first place and the last value. -/
def table (r : Reader α) : Reader (Table String α) := (entries text r).map Table.ofEntries

/-! ## §4. Records -/

end Reader

/-- The fields of a record as they were found.  `cells` has one place for every field of the
    record; `listed` tells that the record was written as a list. -/
structure Fields where
  place : Place
  cells : List (Option Node)
  listed : Bool
deriving Repr

namespace Fields

variable {α : Type}

/-- Whether a key means the field with this name and place. -/
def keyed (name : String) (place : Nat) : Scalar.FieldKey → Bool
  | .name s => s == name
  | .place n => n == place

/-- The value of one field, if it is given once; given twice it is a fault. -/
def cell (entries : List (Scalar.FieldKey × Node)) (name : String) (place : Nat) :
    Except Fault (Option Node) :=
  match entries.filter fun e => keyed name place e.1 with
  | [] => .ok none
  | [e] => .ok (some e.2)
  | _ => .error .shape

/-- The fields of a record written as a map. -/
def ofEntries (p : Place) (names : List String) (entries : List (Node × Node)) :
    Except Fault Fields := do
  let p ← p.inside
  let keyedEntries ← entries.mapM fun (k, v) => do
    let key ← Reader.scalar Scalar.fieldKey p k
    return (key, v)
  let cells ← names.zipIdx.mapM fun (name, i) => cell keyedEntries name i
  return ⟨p, cells, false⟩

/-- Whether records may be written as lists: in JSON, and in values that have been settled. -/
def admitsLists (p : Place) : Bool := p.settled || p.origin.format = .json

/-- The fields of a record written as a list. -/
def ofItems (p : Place) (names : List String) (items : List Node) : Except Fault Fields := do
  let p ← p.inside
  if !admitsLists p then .error .shape
  else if names.length < items.length then .error (if p.settled then .shape else .malformed)
  else
    let missing := List.replicate (names.length - items.length) none
    return ⟨p, items.map some ++ missing, true⟩

/-- The fields of a record, given their names in order.  A place left blank has no fields. -/
def of (names : List String) : Reader Fields := fun p n => do
  match ← p.origin.follow n with
  | .map _ entries => ofEntries p names entries
  | .list _ items => ofItems p names items
  | .scalar s =>
    if s.isBlank then return ⟨p, names.map fun _ => none, false⟩ else .error s.misplaced
  | _ => .error .shape

/-- The node of a field. -/
def at? (f : Fields) (i : Nat) : Option Node := (f.cells[i]?).join

/-- A field that has to be given. -/
def required (f : Fields) (i : Nat) (r : Reader α) : Except Fault α :=
  match f.at? i with
  | some n => r f.place n
  | none => .error .shape

/-- A field that may be left out or be nothing. -/
def optional (f : Fields) (i : Nat) (r : Reader α) : Except Fault (Option α) :=
  match f.at? i with
  | some n => Reader.option r f.place n
  | none => if f.listed then .error .shape else .ok none

/-- A field with a default. -/
def defaulted (f : Fields) (i : Nat) (default : α) (r : Reader α) : Except Fault α :=
  match f.at? i with
  | some n => r f.place n
  | none => .ok default

end Fields

/-! ## §5. References and free values -/

/-- A value, or a reference to one. -/
inductive OrRef (α : Type)
  | ref (target : String)
  | inline (value : α)
deriving Repr, DecidableEq

namespace OrRef

variable {α : Type}

/-- The value, unless there is only a reference. -/
def inline? : OrRef α → Option α
  | .ref _ => none
  | .inline a => some a

/-- The JSON object of a reference. -/
def refJson (target : String) : Json := .object [("$ref", .text target)]

/-- The JSON value: that of the value, or that of the reference. -/
def toJson (f : α → Json) : OrRef α → Json
  | .ref target => refJson target
  | .inline a => f a

end OrRef

/-- Settle a node unless it is settled already. -/
def settled (p : Place) (n : Node) : Except Fault (Place × Node) :=
  if p.settled then .ok (p, n)
  else do
    let (n, _) ← p.origin.expand p.room p.origin.aliasLimit n
    let n ← n.settle
    return ({ p with settled := true }, n)

/-- The target, if a settled node is a reference. -/
def reference? (p : Place) : Node → Option String
  | .map named entries =>
    ((Fields.of ["$ref"] p (.map named entries)) >>= (·.required 0 Reader.text)).toOption
  | _ => none

namespace Reader

variable {α : Type}

/-- A value or a reference: `ofRef` makes the reference, `r` reads anything else. -/
def orElseRef (ofRef : String → α) (r : Reader α) : Reader α := fun p n => do
  let (p, n) ← settled p n
  match reference? p n with
  | some target => return ofRef target
  | none => r p n

/-- A value, or a reference to one. -/
def orRef (r : Reader α) : Reader (OrRef α) := orElseRef .ref (r.map .inline)

/-- A free value. -/
def json : Reader Json := fun p n => do
  if p.settled then n.toJson
  else
    let (n, _) ← p.origin.expand p.room p.origin.aliasLimit n
    n.toJson

/-- Read the root of a document. -/
def run (r : Reader α) (o : Origin) (root : Node) : Except Fault α := r (Place.root o) root

end Reader

end ApiMethods.Source
