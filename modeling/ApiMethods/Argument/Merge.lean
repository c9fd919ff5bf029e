/-
  ApiMethods.Argument.Merge — the parameters of an operation and those it shares.

  An operation has its own parameters and those of its path.  Two of them are the same
  parameter when name and place agree; then the later declaration holds, whole, at the place
  of the earlier.  A body in the older form is kept apart, and parameters in places without
  a meaning are left out.
-/
import ApiMethods.Argument.Basic
import ApiMethods.Skip

namespace ApiMethods.Argument

open ApiMethods.Source (OrRef)
open Document (Parameter Placing)

/-- The parameters of an operation by name and place, and its body in the older form. -/
structure Merged where
  parameters : Table Key Parameter
  body : Option Parameter
deriving Repr

namespace Merged

/-- No parameter. -/
def empty : Merged := ⟨[], none⟩

/-- Add a declaration. -/
def add (m : Merged) (p : Parameter) : Merged :=
  match p.location with
  | .known l => { m with parameters := m.parameters.insert (p.name, l) p }
  | .other _ => if p.isBody then { m with body := some p } else m

/-- The declarations, unless one of them is still a reference. -/
def declared : List (OrRef Parameter) → Except SkipReason (List Parameter)
  | [] => .ok []
  | .ref target :: _ => .error (.unresolvedReference target)
  | .inline p :: rest => (declared rest).map (p :: ·)

/-- The parameters that shared and own declarations make. -/
def of (shared own : List (OrRef Parameter)) : Except SkipReason Merged :=
  (declared (shared ++ own)).map fun ps => ps.foldl add empty

end Merged

end ApiMethods.Argument
