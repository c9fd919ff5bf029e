/-
  ApiMethods.Reference.Inline — replacing the references inside a schema.

  A reference among the members of a schema is replaced by the keywords it points at, and
  so on inside those.  A reference that is being replaced already, or that points nowhere,
  stays.  This ENDS: on the way down every reference is replaced at most once, and only
  finitely many lead to a schema.
-/
import ApiMethods.Reference.Lookup

namespace ApiMethods.Document

/-! ## §1. The measure -/

/-- How many references that might lead to a schema have not been replaced yet. -/
def unexpanded (d : Document) (visited : List String) : Nat :=
  d.schemaReferences.countP fun target => target ∉ visited

theorem countP_lt_countP {α : Type} {p q : α → Bool} {l : List α} {a : α}
    (hpq : ∀ x ∈ l, p x = true → q x = true) (ha : a ∈ l) (hp : p a = false) (hq : q a = true) :
    l.countP p < l.countP q := by
  induction l with
  | nil => simp at ha
  | cons x rest ih =>
    have hle : rest.countP p ≤ rest.countP q :=
      List.countP_mono_left fun y hy => hpq y (List.mem_cons_of_mem _ hy)
    have hx := hpq x List.mem_cons_self
    rcases List.mem_cons.mp ha with rfl | ha
    · simp [hp, hq]
      omega
    · have := ih (fun y hy => hpq y (List.mem_cons_of_mem _ hy)) ha
      simp only [List.countP_cons]
      cases hpx : p x
      · simp; omega
      · simp [hx hpx]; omega

/-- Replacing one more reference leaves fewer to replace. -/
theorem unexpanded_lt {d : Document} {visited : List String} {target : String}
    {b : SchemaBody Schema} (hv : target ∉ visited) (h : d.schemaAt? target = some b) :
    d.unexpanded (target :: visited) < d.unexpanded visited := by
  refine countP_lt_countP (a := target) ?_ (mem_schemaReferences h) ?_ ?_
  · intro x _ hx
    simp only [List.mem_cons, not_or, decide_eq_true_eq] at hx ⊢
    exact hx.2
  · simp
  · simpa using hv

/-! ## §2. Inlining -/

/-- A working set that is the same as a given one. -/
abbrev Restored (visited : List String) : Type := { current : List String // current = visited }

instance (visited : List String) : Subsingleton (Restored visited) :=
  ⟨fun a b => Subtype.ext (a.property.trans b.property.symm)⟩

/-- The schema with its references replaced, given the references that are being replaced.  These are
    kept in one working set: a reference joins it while it is replaced and leaves it afterwards, and
    what comes next works with the set that is left.  That set is the one that was given. -/
def inlineWith (d : Document) (visited : List String) (s : Schema) : Schema × Restored visited :=
  let step : String → StateM (Restored visited) Schema := fun target current =>
    if hv : target ∈ current.val then (.ref target, current)
    else match h : d.schemaAt? target with
      | some body =>
        let r := inlineWith d (target :: current.val) (.inline body)
        (r.1, ⟨r.2.val.erase target, by
          rw [r.2.property, List.erase_cons_head, current.property]⟩)
      | none => (.ref target, current)
  s.substituteM step ⟨visited, rfl⟩
termination_by d.unexpanded visited
decreasing_by
  exact Nat.lt_of_lt_of_eq (unexpanded_lt hv h) (congrArg d.unexpanded current.property)

/-- The schema with its references replaced, whatever becomes of the working set. -/
def inlineFrom (d : Document) (visited : List String) (s : Schema) : Schema :=
  (d.inlineWith visited s).1

/-- What a reference becomes. -/
theorem inlineFrom_ref (d : Document) (visited : List String) (target : String) :
    d.inlineFrom visited (.ref target) =
      if target ∈ visited then .ref target
      else match d.schemaAt? target with
        | some body => d.inlineFrom (target :: visited) (.inline body)
        | none => .ref target := by
  unfold inlineFrom
  rw [inlineWith, Schema.substituteM_ref]
  split
  · rfl
  · split <;> simp_all

/-- Inside a schema every member is treated alike. -/
theorem inlineFrom_inline (d : Document) (visited : List String) (b : SchemaBody Schema) :
    d.inlineFrom visited (.inline b) = .inline (b.mapMembers (d.inlineFrom visited)) := by
  unfold inlineFrom
  rw [inlineWith, Schema.fst_substituteM_inline]
  congr 2
  funext s
  rw [inlineWith]

end ApiMethods.Document
