/-
  ApiMethods.Source.YamlText — the tree of a YAML text.

  A YAML document becomes a document tree in which anchors are numbers.  The number of an
  anchor is the number of different names seen before it, so a name that is used again gets
  the number after the last one; when two anchors share a number, the one that begins last
  in the text is meant.  An alias has to follow its anchor.
-/
import ApiMethods.Yaml.Tree
import ApiMethods.Source.Node

namespace ApiMethods.Source.YamlText

open ApiMethods.Yaml (Tree Props)

/-! ## §1. Tags -/

/-- The handles that need no declaration. -/
def standardHandles : List (String × String) := [("!", "!"), ("!!", "tag:yaml.org,2002:")]

/-- The full text of a tag: its handle is replaced as declared. -/
def fullTag? (handles : List (String × String)) : String × String → Option String
  | ("", suffix) => some suffix
  | (handle, suffix) =>
    ((handles ++ standardHandles).lookup handle).map fun replacement => replacement ++ suffix

/-- What a tag means. -/
def meaning (tag : String) : Tag :=
  if tag = "tag:yaml.org,2002:null" then .null
  else if tag = "tag:yaml.org,2002:bool" then .bool
  else if tag = "tag:yaml.org,2002:int" then .int
  else if tag = "tag:yaml.org,2002:float" then .float
  else match tag.toList with
    | '!' :: name => .named (String.ofList name)
    | _ => .foreign

/-- The tag of a node. -/
def tag? (handles : List (String × String)) (props : Props) : Option Tag :=
  match props.tag with
  | none => some .none
  | some t => (fullTag? handles t).map meaning

/-- The tag of a scalar: a lone exclamation mark says nothing. -/
def scalarTag? (handles : List (String × String)) (props : Props) : Option Tag :=
  (tag? handles props).map fun t => if t = .named "" then .none else t

/-- Folded scalars count as quoted ones. -/
def style : Yaml.ScalarStyle → Style
  | .plain => .plain
  | .literal => .literal
  | .quoted => .quoted
  | .folded => .quoted

/-! ## §2. Anchors -/

/-- An anchored node: its place among the anchors of the text, its number, and the node. -/
structure Anchored where
  place : Nat
  number : Nat
  node : Node

/-- The anchors met so far: the number of each name, how many anchors have begun, and the nodes of
    those that are complete. -/
structure Anchors where
  numbers : List (String × Nat)
  begun : Nat
  complete : List Anchored

namespace Anchors

/-- No anchor yet. -/
def none : Anchors := ⟨[], 0, []⟩

/-- A node with this anchor begins. -/
def start (a : Anchors) (anchor : Option String) : Anchors :=
  match anchor with
  | .none => a
  | some name =>
    let number := a.numbers.length
    ⟨(name, number) :: a.numbers.filter (·.1 != name), a.begun + 1, a.complete⟩

/-- The node that began at this state is complete. -/
def finish (a : Anchors) (before : Anchors) (anchor : Option String) (n : Node) : Anchors :=
  match anchor with
  | .none => a
  | some _ => { a with complete := ⟨before.begun, before.numbers.length, n⟩ :: a.complete }

/-- The node behind each number: the one that began last. -/
def nodes (a : Anchors) : List (Nat × Node) :=
  (a.complete.mergeSort fun x y => y.place ≤ x.place).map fun x => (x.number, x.node)

end Anchors

/-! ## §3. Nodes -/

mutual

/-- The node of a tree, and the anchors met up to its end. -/
def node? (handles : List (String × String)) (a : Anchors) : Tree → Option (Node × Anchors)
  | .alias name => (a.numbers.lookup name).map fun number => (.alias number, a)
  | .blank props => do
    let tag ← tag? handles props
    let n : Node := .scalar (.written "" .plain tag)
    return (n, (a.start props.anchor).finish a props.anchor n)
  | .scalar props text s => do
    let tag ← scalarTag? handles props
    let n : Node := .scalar (.written text (style s) tag)
    return (n, (a.start props.anchor).finish a props.anchor n)
  | .list props items => do
    let tag ← tag? handles props
    let (items, b) ← items? handles (a.start props.anchor) items
    let n : Node := .list tag.isNamed items
    return (n, b.finish a props.anchor n)
  | .map props entries => do
    let tag ← tag? handles props
    let (entries, b) ← entries? handles (a.start props.anchor) entries
    let n : Node := .map tag.isNamed entries
    return (n, b.finish a props.anchor n)

/-- The nodes of the items. -/
def items? (handles : List (String × String)) (a : Anchors) :
    List Tree → Option (List Node × Anchors)
  | [] => some ([], a)
  | t :: rest => do
    let (n, a) ← node? handles a t
    let (rest, a) ← items? handles a rest
    return (n :: rest, a)

/-- The nodes of the keys and values. -/
def entries? (handles : List (String × String)) (a : Anchors) :
    List (Tree × Tree) → Option (List (Node × Node) × Anchors)
  | [] => some ([], a)
  | (k, v) :: rest => do
    let (k, a) ← node? handles a k
    let (v, a) ← node? handles a v
    let (rest, a) ← entries? handles a rest
    return ((k, v) :: rest, a)

end

/-! ## §4. Documents -/

/-- How many aliases may be followed for every node of a document. -/
def aliasesPerNode : Nat := 100

/-- The root of a document and what surrounds it. -/
def ofDocument? (d : Yaml.Document) : Option (Origin × Node) :=
  match d.root with
  | none => some (⟨.yaml, [], aliasesPerNode⟩, .scalar .absent)
  | some t => do
    let (n, a) ← node? d.handles .none t
    return (⟨.yaml, a.nodes, aliasesPerNode * n.weight⟩, n)

/-- The tree of a text. -/
def document? (s : String) : Option (Origin × Node) := Yaml.Document.parse? s >>= ofDocument?

end ApiMethods.Source.YamlText
