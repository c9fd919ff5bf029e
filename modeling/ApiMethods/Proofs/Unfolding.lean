/-
  ApiMethods.Proofs.Unfolding
  ───────────────────────────
  **INLINING A SCHEMA KEEPS ITS MEANING AND LEAVES NO REFERENCE WITHOUT NEED.**

  A schema stands for a tree that may be infinite, because a definition may refer to itself.
  `unfold n` is the top of that tree: references are replaced by what they point at, down to
  depth `n`.  Inlining replaces references as well, but stops where one is being replaced
  already.

    • `unfold_inlineFrom`: at every depth the inlined schema unfolds like the schema itself,
      whatever references are in progress,
    • `left_of_at?_inlineFrom`: a reference that is left points nowhere, or is in progress, or was
      replaced further up on the way to the place where it is left.

  Both follow from one account of a single step (`inlineFrom_cases`): inlining keeps a
  reference, or puts the members of a body in place of what is behind the schema, and then
  at most this one reference more is in progress.

  `Inlined` states both of a schema and what it becomes, and `resolve_inlined` places it at every
  schema of a parameter or a response header, position by position.
-/
import Mathlib.Data.List.Forall2
import ApiMethods.Proofs.Resolution

namespace ApiMethods

open ApiMethods.Source (OrRef)

namespace Document

/-! ## §1. The tree of a schema. -/

/-- What is behind a schema: the body that it points at, if it is a reference with a target. -/
def behind (d : Document) : Schema → Schema
  | .ref target => ((d.schemaAt? target).map .inline).getD (.ref target)
  | .inline b => .inline b

/-- The top of the tree of a schema, down to a depth: every reference with a target is replaced, and
    the members are unfolded in turn.  Below that depth stands an empty body. -/
def unfold (d : Document) : Nat → Schema → Schema
  | 0, _ => .inline {}
  | n + 1, s => match d.behind s with
    | .ref target => .ref target
    | .inline b => .inline (b.mapMembers (d.unfold n))

/-! ## §2. Positions. -/

/-- A step from a schema to one of its members. -/
inductive Step
  | property (key : String)
  | items
deriving Repr, DecidableEq

/-- The member of a body that a step leads to. -/
def SchemaBody.member? {σ : Type} (b : SchemaBody σ) : Step → Option σ
  | .property key => Table.get? b.properties key
  | .items => b.items

theorem SchemaBody.member?_mapMembers {σ : Type} (b : SchemaBody σ) (f : σ → σ) (step : Step) :
    (b.mapMembers f).member? step = (b.member? step).map f := by
  cases step with
  | property key => exact Table.get?_mapValues f b.properties key
  | items => rfl

/-- The schema at a position, reached by steps from the root. -/
def Schema.at? : List Step → Schema → Option Schema
  | [], s => some s
  | step :: rest, s => do
    let b ← s.body?
    let member ← b.member? step
    Schema.at? rest member

/-- The schema that is written at a position, where the way there leads through references to what is
    behind them. -/
def written? (d : Document) : List Step → Schema → Option Schema
  | [], s => some s
  | step :: rest, s => do
    let b ← (d.behind s).body?
    let member ← b.member? step
    d.written? rest member

/-- At a position of `s` a reference is written, and `s'` has a body there. -/
def ExpandedAt (d : Document) (s s' : Schema) (position : List Step) (target : String) : Prop :=
  d.written? position s = some (.ref target) ∧ ∃ b, Schema.at? position s' = some (.inline b)

/-! ## §3. Step: what inlining does to a schema. -/

/-- **Step**: a reference is kept because it is in progress or points nowhere, or else what is behind
the schema has its members inlined, with at most the schema's own reference in progress besides. -/
theorem inlineFrom_cases (d : Document) (visited : List String) (s : Schema) :
    (∃ target, s = .ref target ∧ d.inlineFrom visited s = .ref target ∧
      (target ∈ visited ∨ d.schemaAt? target = none)) ∨
    ∃ b visited', d.behind s = .inline b ∧
      d.inlineFrom visited s = .inline (b.mapMembers (d.inlineFrom visited')) ∧
      ∀ target ∈ visited', target ∈ visited ∨ s = .ref target := by
  cases s with
  | inline b => exact .inr ⟨b, visited, rfl, inlineFrom_inline d visited b, fun _ h => .inl h⟩
  | ref target =>
    rw [inlineFrom_ref]
    by_cases hseen : target ∈ visited
    · exact .inl ⟨target, rfl, if_pos hseen, .inl hseen⟩
    · rw [if_neg hseen]
      cases hb : d.schemaAt? target with
      | none => exact .inl ⟨target, rfl, rfl, .inr hb⟩
      | some b =>
        refine .inr ⟨b, target :: visited, ?_, inlineFrom_inline d _ b, fun t ht => ?_⟩
        · show ((d.schemaAt? target).map Schema.inline).getD (.ref target) = _
          rw [hb]
          rfl
        · rcases List.mem_cons.mp ht with rfl | ht
          · exact .inr rfl
          · exact .inl ht

/-! ## §4. Run: the meaning is kept. -/

theorem SchemaBody.mapMembers_mapMembers {σ : Type} (f g : σ → σ) (b : SchemaBody σ) :
    (b.mapMembers f).mapMembers g = b.mapMembers (g ∘ f) := by
  have hproperties : Table.mapValues g (Table.mapValues f b.properties)
      = Table.mapValues (g ∘ f) b.properties := List.map_map
  have hitems : (b.items.map f).map g = b.items.map (g ∘ f) := Option.map_map g f b.items
  show { b with
    properties := Table.mapValues g (Table.mapValues f b.properties)
    items := (b.items.map f).map g } = _
  rw [hproperties, hitems]
  rfl

theorem SchemaBody.mapMembers_id (b : SchemaBody Schema) : b.mapMembers id = b := by
  have hproperties : Table.mapValues id b.properties = b.properties := List.map_id _
  unfold SchemaBody.mapMembers
  rw [hproperties, Option.map_id]
  rfl

/-- The members of a body whose members are changed are the changed members. -/
theorem SchemaBody.members_mapMembers (f : Schema → Schema) (b : SchemaBody Schema) :
    (b.mapMembers f).members = b.members.map f := by
  unfold SchemaBody.members SchemaBody.mapMembers Table.values Table.mapValues
  rw [List.map_append, List.map_map, List.map_map]
  cases b.items <;> rfl

/-- **UNFOLDING DOES NOT SEE INLINING**, whatever references are in progress. -/
theorem unfold_inlineFrom (d : Document) :
    ∀ (n : Nat) (visited : List String) (s : Schema),
      d.unfold n (d.inlineFrom visited s) = d.unfold n s := by
  intro n
  induction n with
  | zero => exact fun _ _ => rfl
  | succ n ih =>
    -- the members are inlined with other references in progress, so `ih` is for all of these
    intro visited s
    rcases inlineFrom_cases d visited s with ⟨target, rfl, hkept, -⟩ | ⟨b, visited', hb, hs, -⟩
    · rw [hkept]
    · have hmembers : d.unfold n ∘ d.inlineFrom visited' = d.unfold n := funext (ih visited')
      have hinline : ∀ b : SchemaBody Schema,
          d.unfold (n + 1) (.inline b) = .inline (b.mapMembers (d.unfold n)) := fun _ => rfl
      have hbehind : d.unfold (n + 1) s = .inline (b.mapMembers (d.unfold n)) := by
        rw [unfold, hb]
      rw [hs, hinline, SchemaBody.mapMembers_mapMembers, hmembers, hbehind]

/-! ## §5. Run: which references are left. -/

/-- **WHY A REFERENCE IS LEFT**: it points nowhere, or it was in progress to begin with, or it was
replaced at a position further up. -/
theorem left_of_at?_inlineFrom (d : Document) :
    ∀ (position : List Step) (visited : List String) (s : Schema) (target : String),
      Schema.at? position (d.inlineFrom visited s) = some (.ref target) →
      d.schemaAt? target = none ∨ target ∈ visited ∨
      ∃ above, above <+: position ∧ above ≠ position ∧
        d.ExpandedAt s (d.inlineFrom visited s) above target := by
  intro position
  induction position with
  | nil =>
    intro visited s target hleft
    rcases inlineFrom_cases d visited s with ⟨t, -, hkept, hwhy⟩ | ⟨b, visited', -, hs, -⟩
    · rw [hkept] at hleft
      cases hleft
      exact hwhy.symm.imp_right .inl
    · rw [hs] at hleft
      cases hleft
  | cons step rest ih =>
    intro visited s target hleft
    rcases inlineFrom_cases d visited s with ⟨t, -, hkept, -⟩ | ⟨b, visited', hb, hs, hvisited⟩
    · -- below a reference there is no position
      rw [hkept] at hleft
      cases hleft
    · rw [hs] at hleft ⊢
      have hstep : ((b.mapMembers (d.inlineFrom visited')).member? step).bind
          (Schema.at? rest) = some (.ref target) := hleft
      rw [SchemaBody.member?_mapMembers] at hstep
      obtain ⟨member', hmember', hrest⟩ := Option.bind_eq_some_iff.mp hstep
      obtain ⟨member, hmember, rfl⟩ := Option.map_eq_some_iff.mp hmember'
      rcases ih visited' member target hrest with hnone | hprogress | ⟨above, hpre, hne, hexp, hbody⟩
      · exact .inl hnone
      · rcases hvisited target hprogress with hseen | rfl
        · exact .inr (.inl hseen)
        · -- the reference came into progress at this very schema
          exact .inr (.inr ⟨[], List.nil_prefix, nofun, rfl, _, rfl⟩)
      · refine .inr (.inr ⟨step :: above, List.cons_prefix_cons.mpr ⟨rfl, hpre⟩,
          fun heq => hne (List.cons.inj heq).2, ?_, ?_⟩)
        · show (d.behind s).body?.bind (fun b => (b.member? step).bind (d.written? above)) = _
          rw [hb]
          show (b.member? step).bind (d.written? above) = _
          rw [hmember]
          exact hexp
        · obtain ⟨b', hb'⟩ := hbody
          refine ⟨b', ?_⟩
          show ((b.mapMembers (d.inlineFrom visited')).member? step).bind (Schema.at? above) = _
          rw [SchemaBody.member?_mapMembers, hmember]
          exact hb'

/-! ## §6. What inlining promises. -/

/-- What a schema and the schema that it is inlined to have to do with each other. -/
structure Inlined (d : Document) (s s' : Schema) : Prop where
  /-- Both unfold to the same tree, to every depth. -/
  unfold_eq : ∀ n, d.unfold n s' = d.unfold n s
  /-- A reference that is left points nowhere, or was replaced at a position further up. -/
  left : ∀ position target, Schema.at? position s' = some (.ref target) →
    d.schemaAt? target = none ∨
    ∃ above, above <+: position ∧ above ≠ position ∧ d.ExpandedAt s s' above target

/-- Inlining keeps its promise when no reference is in progress. -/
theorem inlined_inlineSchema (d : Document) (s : Schema) : d.Inlined s (d.inlineSchema s) where
  unfold_eq n := unfold_inlineFrom d n [] s
  left position target h :=
    (left_of_at?_inlineFrom d position [] s target h).imp_right fun hor =>
      hor.resolve_left (List.not_mem_nil)

/-! ## §7. The schemas of a document. -/

/-- A value, or what a reference to one points at, is related to a value; a reference that points
    nowhere is kept. -/
inductive Looked {α : Type} (lookup : String → Option α) (R : α → α → Prop) :
    OrRef α → OrRef α → Prop
  | inline {a a' : α} : R a a' → Looked lookup R (.inline a) (.inline a')
  | target {r : String} {a a' : α} : lookup r = some a → R a a' →
      Looked lookup R (.ref r) (.inline a')
  | dangling {r : String} : lookup r = none → Looked lookup R (.ref r) (.ref r)

/-- Two tables have the same keys in the same order, and related values under them. -/
def TableRel {κ α : Type} (R : α → α → Prop) : Table κ α → Table κ α → Prop :=
  List.Forall₂ fun e e' => e.1 = e'.1 ∧ R e.2 e'.2

/-- The schema and the items of a parameter are inlined, unless it is a body in the older form. -/
def ParameterInlined (d : Document) (p p' : Parameter) : Prop :=
  p'.isBody = p.isBody ∧
  (p.isBody = false → Option.Rel d.Inlined p.schema p'.schema ∧
    Option.Rel d.Inlined p.items p'.items)

/-- The schema of a header is inlined. -/
def HeaderInlined (d : Document) (h h' : Header) : Prop := Option.Rel d.Inlined h.schema h'.schema

/-- The headers of a response are looked up and inlined. -/
def ResponseInlined (d : Document) (r r' : Response) : Prop :=
  TableRel (Looked d.headerAt? d.HeaderInlined) r.headers r'.headers

/-- The parameters and the responses of an operation are looked up and inlined. -/
def OperationInlined (d : Document) (o o' : Operation) : Prop :=
  List.Forall₂ (Looked d.parameterAt? d.ParameterInlined) o.parameters o'.parameters ∧
  TableRel (Looked d.responseAt? d.ResponseInlined) o.responses o'.responses

/-- So are those of a path item. -/
def ItemInlined (d : Document) (i i' : PathItem) : Prop :=
  List.Forall₂ (Looked d.parameterAt? d.ParameterInlined) i.parameters i'.parameters ∧
  TableRel d.OperationInlined i.operations i'.operations

section Relations

variable {α κ : Type} {R : α → α → Prop} {f : α → α}

theorem looked_mapInline (h : ∀ a, R a (f a)) (lookup : String → Option α) (x : OrRef α) :
    Looked lookup R x (Inlining.mapInline f (Inlining.target lookup x)) := by
  cases x with
  | inline a => exact .inline (h a)
  | ref r =>
    simp only [Inlining.target]
    cases hr : lookup r with
    | some a => exact .target hr (h a)
    | none => exact .dangling hr

theorem forall₂_map (h : ∀ a, R a (f a)) (l : List α) : List.Forall₂ R l (l.map f) :=
  List.forall₂_map_right_iff.mpr (List.forall₂_same.mpr fun a _ => h a)

theorem tableRel_mapValues (h : ∀ a, R a (f a)) (t : Table κ α) : TableRel R t (t.mapValues f) :=
  forall₂_map (f := fun e : κ × α => (e.1, f e.2)) (fun e => ⟨rfl, h e.2⟩) t

theorem rel_map (h : ∀ a, R a (f a)) (o : Option α) : Option.Rel R o (o.map f) := by
  cases o with
  | none => exact .none
  | some a => exact .some (h a)

end Relations

theorem parameterInlined_inlineParameter (d : Document) (p : Parameter) :
    d.ParameterInlined p (d.inlineParameter p) := by
  unfold inlineParameter
  split
  · rename_i hbody
    exact ⟨rfl, fun h => absurd hbody (h ▸ Bool.false_ne_true)⟩
  · exact ⟨rfl, fun _ => ⟨rel_map (inlined_inlineSchema d) _, rel_map (inlined_inlineSchema d) _⟩⟩

theorem looked_resolveParameter (d : Document) (p : OrRef Parameter) :
    Looked d.parameterAt? d.ParameterInlined p (d.resolveParameter p) :=
  looked_mapInline (parameterInlined_inlineParameter d) _ p

theorem looked_resolveHeader (d : Document) (h : OrRef Header) :
    Looked d.headerAt? d.HeaderInlined h (d.resolveHeader h) :=
  looked_mapInline (f := d.inlineHeader) (fun h => rel_map (inlined_inlineSchema d) h.schema) _ h

theorem looked_resolveResponse (d : Document) (r : OrRef Response) :
    Looked d.responseAt? d.ResponseInlined r (d.resolveResponse r) :=
  looked_mapInline (f := d.inlineResponse)
    (fun r => tableRel_mapValues (looked_resolveHeader d) r.headers) _ r

theorem operationInlined_resolveOperation (d : Document) (o : Operation) :
    d.OperationInlined o (d.resolveOperation o) :=
  ⟨forall₂_map (looked_resolveParameter d) _, tableRel_mapValues (looked_resolveResponse d) _⟩

theorem itemInlined_resolveItem (d : Document) (i : PathItem) :
    d.ItemInlined i (d.resolveItem i) :=
  ⟨forall₂_map (looked_resolveParameter d) _,
    tableRel_mapValues (operationInlined_resolveOperation d) _⟩

/-- **INLINING KEEPS THE MEANING OF EVERY SCHEMA AND IS COMPLETE**: of a schema on its own, and,
position by position, of every parameter and every response header of a resolved document. -/
theorem resolve_inlined (d : Document) :
    (∀ s, d.Inlined s (Inlining.schema d s []).1) ∧
    Option.Rel (TableRel d.ItemInlined) d.paths d.resolve.paths := by
  constructor
  · exact inlined_inlineSchema d
  · rw [resolve_eq]
    exact rel_map (tableRel_mapValues (itemInlined_resolveItem d)) d.paths

end Document

end ApiMethods
