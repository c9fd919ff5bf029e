/-
  ApiMethods.Source.Node — the tree of a document, before its fields are read.

  JSON and YAML documents meet in one tree.  Besides scalars, lists and maps it has
  aliases, which point at an anchored node of the same document; maps keep every entry,
  repeated keys included, because who reads a map decides what a repetition means.

  Some values have more than one admissible shape.  Before such a value is read it is
  SETTLED: aliases are replaced by what they point at and every scalar gets its type, once
  and for all, so that each attempt sees the same value.
-/
import ApiMethods.Json.Basic
import ApiMethods.Source.Scalar

namespace ApiMethods.Source

/-! ## §1. The tree -/

/-- A node of a document.  `named` tells a collection that carries a local tag. -/
inductive Node
  | scalar (s : Scalar)
  | list (named : Bool) (items : List Node)
  | map (named : Bool) (entries : List (Node × Node))
  | alias (anchor : Nat)
deriving Repr, Inhabited

/-- The two notations a document may be written in. -/
inductive Format
  | json
  | yaml
deriving Repr, DecidableEq

namespace Node

/-- A typed scalar. -/
def typed (p : Prim) : Node := .scalar (.typed p)

/-- A typed text. -/
def text (s : String) : Node := typed (.text s)

mutual

/-- Number of nodes, where a collection counts twice, for its beginning and its end. -/
def weight : Node → Nat
  | .list _ items => weightItems items + 2
  | .map _ entries => weightEntries entries + 2
  | _ => 1

/-- Weight of the items. -/
def weightItems : List Node → Nat
  | [] => 0
  | n :: rest => weight n + weightItems rest

/-- Weight of keys and values. -/
def weightEntries : List (Node × Node) → Nat
  | [] => 0
  | (k, v) :: rest => weight k + weight v + weightEntries rest

end

end Node

/-! ## §2. What surrounds a node -/

/-- What a document knows beside its tree: the notation, the nodes behind its anchors, and how
    many aliases may be followed while one value is settled. -/
structure Origin where
  format : Format
  anchors : List (Nat × Node)
  aliasLimit : Nat
deriving Repr

namespace Origin

/-- How deep values may nest. -/
def depthLimit (o : Origin) : Nat :=
  match o.format with
  | .json => 127
  | .yaml => 128

/-- A JSON document, which has no anchors. -/
def json : Origin := ⟨.json, [], 0⟩

/-- The node behind an anchor. -/
def anchored (o : Origin) (anchor : Nat) : Except Fault Node :=
  match o.anchors.lookup anchor with
  | some (.alias _) => .error .malformed
  | some n => .ok n
  | none => .error .malformed

/-- The node itself, or what it points at. -/
def follow (o : Origin) : Node → Except Fault Node
  | .alias anchor => o.anchored anchor
  | n => .ok n

end Origin

/-! ## §3. Expansion: aliases replaced by what they point at -/

/-- Apply a step to every item, handing the remaining number of aliases along. -/
def threadItems (step : Nat → Node → Except Fault (Node × Nat)) (left : Nat) :
    List Node → Except Fault (List Node × Nat)
  | [] => .ok ([], left)
  | n :: rest => do
    let (n, left) ← step left n
    let (rest, left) ← threadItems step left rest
    return (n :: rest, left)

/-- Apply a step to every key and value, handing the remaining number of aliases along. -/
def threadEntries (step : Nat → Node → Except Fault (Node × Nat)) (left : Nat) :
    List (Node × Node) → Except Fault (List (Node × Node) × Nat)
  | [] => .ok ([], left)
  | (k, v) :: rest => do
    let (k, left) ← step left k
    let (v, left) ← step left v
    let (rest, left) ← threadEntries step left rest
    return ((k, v) :: rest, left)

/-- Follow an alias if the node is one and the limit is not used up. -/
def Origin.followCounting (o : Origin) (left : Nat) : Node → Except Fault (Node × Nat)
  | .alias anchor =>
    if left = 0 then .error .malformed
    else do
      let n ← o.anchored anchor
      return (n, left - 1)
  | n => .ok (n, left)

/-- The node without aliases.  `room` is the number of levels that may still be entered and
    `left` the number of aliases that may still be followed; the limits make the expansion of a
    node that contains itself end. -/
def Origin.expand (o : Origin) : (room left : Nat) → Node → Except Fault (Node × Nat)
  | 0, left, n => do
    let (n, left) ← o.followCounting left n
    match n with
    | .scalar s => return (.scalar s, left)
    | _ => .error .malformed
  | room + 1, left, n => do
    let (n, left) ← o.followCounting left n
    match n with
    | .scalar s => return (.scalar s, left)
    | .list named items =>
      let (items, left) ← threadItems (o.expand room) left items
      return (.list named items, left)
    | .map named entries =>
      let (entries, left) ← threadEntries (o.expand room) left entries
      return (.map named entries, left)
    | .alias _ => .error .malformed

/-! ## §4. Settling: every scalar gets its type -/

namespace Node

mutual

/-- The node with typed scalars.  Local tags and aliases have no settled form. -/
def settle : Node → Except Fault Node
  | .scalar s => do
    let p ← s.prim
    return .typed p
  | .list named items => do
    if named then .error .shape
    let items ← settleItems items
    return .list false items
  | .map named entries => do
    if named then .error .shape
    let entries ← settleEntries entries
    return .map false entries
  | .alias _ => .error .malformed

/-- Settle every item. -/
def settleItems : List Node → Except Fault (List Node)
  | [] => .ok []
  | n :: rest => do
    let n ← settle n
    let rest ← settleItems rest
    return n :: rest

/-- Settle every key and value. -/
def settleEntries : List (Node × Node) → Except Fault (List (Node × Node))
  | [] => .ok []
  | (k, v) :: rest => do
    let k ← settle k
    let v ← settle v
    let rest ← settleEntries rest
    return (k, v) :: rest

end

/-! ## §5. Free values -/

/-- The JSON value of a typed scalar. -/
def jsonOfPrim : Prim → Json
  | .null => .null
  | .bool b => .bool b
  | .number n => .number n
  | .notFinite => .null
  | .text s => .text s

mutual

/-- The JSON value of a node without aliases.  Objects come out sorted, and a repeated key has its
    last value. -/
def toJson : Node → Except Fault Json
  | .scalar s => do
    let p ← s.prim
    return jsonOfPrim p
  | .list named items => do
    if named then .error .shape
    let items ← toJsonItems items
    return .list items
  | .map named entries => do
    if named then .error .shape
    let entries ← toJsonEntries entries
    return .object (Json.sorted entries)
  | .alias _ => .error .malformed

/-- The JSON values of the items. -/
def toJsonItems : List Node → Except Fault (List Json)
  | [] => .ok []
  | n :: rest => do
    let v ← toJson n
    let rest ← toJsonItems rest
    return v :: rest

/-- The entries of an object; a key is read as a text. -/
def toJsonEntries : List (Node × Node) → Except Fault (List (String × Json))
  | [] => .ok []
  | (k, v) :: rest => do
    let key ← match k with
      | .scalar s => s.text
      | _ => .error .shape
    let v ← toJson v
    let rest ← toJsonEntries rest
    return (key, v) :: rest

end

end Node

end ApiMethods.Source
