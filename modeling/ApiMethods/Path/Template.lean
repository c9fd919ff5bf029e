/-
  ApiMethods.Path.Template — paths whose placeholders are bound to arguments.

  Every placeholder stands for one path argument, and every path argument has a
  placeholder.
-/
import ApiMethods.Argument.Basic
import ApiMethods.Path.Pieces
import ApiMethods.Skip

namespace ApiMethods.Path

/-! ## §1. Templates -/

/-- A piece of a template: text, or a slot for the argument of that name. -/
inductive Segment
  | literal (text : String)
  | slot (name : String) (ident : Name)
deriving Repr, DecidableEq

/-- A path and its segments. -/
structure Template where
  raw : String
  segments : List Segment
deriving Repr, DecidableEq

namespace Segment

/-- The name of a slot. -/
def name? : Segment → Option String
  | literal _ => none
  | slot name _ => some name

/-- The text of a segment, given what fills a slot. -/
def render (fill : String → Name → String) : Segment → String
  | literal text => text
  | slot name ident => fill name ident

/-- The JSON object of a segment. -/
def toJson : Segment → Json
  | literal text => .object [("kind", .text "literal"), ("text", .text text)]
  | slot name ident =>
    .object [("kind", .text "slot"), ("param", .text name), ("ident", ident.toJson)]

end Segment

namespace Template

/-- The names of the slots, in order. -/
def slots (t : Template) : List String := t.segments.filterMap Segment.name?

/-- The path with its slots filled. -/
def render (fill : String → Name → String) (t : Template) : String :=
  String.join (t.segments.map (Segment.render fill))

/-- The JSON object of a template. -/
def toJson (t : Template) : Json :=
  .object [("raw", .text t.raw), ("segments", .list (t.segments.map Segment.toJson))]

end Template

/-! ## §2. Binding -/

/-- Bind the pieces of a path, given the placeholders in front of them. -/
def bind (args : List Argument) (seen : List String) :
    List Piece → Except SkipReason (List Segment)
  | [] => .ok []
  | .literal text :: rest => (bind args seen rest).map (.literal (String.ofList text) :: ·)
  | .slot name :: rest =>
    let name := String.ofList name
    if name ∈ seen then .error (.duplicatePlaceholder name)
    else match args.find? (·.name = name) with
      | none => .error (.undeclaredPlaceholder name)
      | some a => (bind args (name :: seen) rest).map (.slot a.name a.ident :: ·)

/-- The template of a path for some arguments. -/
def template (path : String) (args : List Argument) : Except SkipReason Template := do
  let segments ← bind args [] (split path.toList)
  match args.find? (·.name ∉ placeholders path) with
  | some unused => .error (.unusedPathParameter unused.name)
  | none => return ⟨path, segments⟩

end ApiMethods.Path
