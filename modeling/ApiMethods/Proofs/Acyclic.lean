/-
  ApiMethods.Proofs.Acyclic
  ─────────────────────────
  **A RESOLVED DOCUMENT RESOLVES TO ITSELF, WHEN NO DEFINITION REACHES ITSELF.**

  Inlining stops at a reference in two cases: the reference points nowhere, or it is in progress.
  In the second case the definition behind it refers to itself, perhaps by way of others, and
  inlining the result again would unroll it once more.  A document is ACYCLIC when this never
  happens: on the way from definition to definition, where one that is only a reference counts as
  what it passes on to, no definition reaches itself.

  The INVARIANT of inlining is that every reference in progress has led to whatever the schema at
  hand refers to (`Led`).  In an acyclic document that rules the second case out, so only references
  that point nowhere are left (`schemaAt?_of_refersTo_inlineFrom`).  They point nowhere in the
  resolved document either, whose tables are the same, and the second pass finds nothing to replace.
-/
import Mathlib.Logic.Relation
import ApiMethods.Method.Compile
import ApiMethods.Proofs.Unfolding

namespace ApiMethods.Document

open ApiMethods.Source (OrRef)
open ApiMethods.Reference (name?)
open Relation (TransGen)

/-! ## §1. What a schema refers to. -/

/-- A reference occurs in a schema: it is the schema, or it occurs in one of the members. -/
inductive Schema.RefersTo : Schema → String → Prop
  | ref {target : String} : RefersTo (.ref target) target
  | member {b : SchemaBody Schema} {s : Schema} {target : String} : s ∈ b.members →
      RefersTo s target → RefersTo (.inline b) target

theorem refersTo_ref_iff {target target' : String} :
    (Schema.ref target).RefersTo target' ↔ target' = target := by
  constructor
  · intro h
    cases h with
    | ref => rfl
  · rintro rfl
    exact .ref

theorem refersTo_inline_iff {b : SchemaBody Schema} {target : String} :
    (Schema.inline b).RefersTo target ↔ ∃ s ∈ b.members, s.RefersTo target := by
  constructor
  · intro h
    cases h with
    | member hs h => exact ⟨_, hs, h⟩
  · rintro ⟨s, hs, h⟩
    exact .member hs h

/-! ## §2. Definitions that lead to one another. -/

/-- The body of a named schema: its own, or that of the named schema which it passes on to. -/
def bodyOf? (d : Document) (name : String) : Option (SchemaBody Schema) := do
  match ← d.schemas.get? name with
  | .inline b => some b
  | .ref next => do
    let s ← d.namedSchemaAt? next
    s.body?

/-- In the body of a definition there is a reference to another. -/
def LeadsTo (d : Document) (name name' : String) : Prop :=
  ∃ b target, d.bodyOf? name = some b ∧ (Schema.inline b).RefersTo target ∧
    name? "schemas" target = some name'

/-- No definition reaches itself. -/
def Acyclic (d : Document) : Prop := ∀ name, ¬ TransGen d.LeadsTo name name

variable {d : Document}

/-- No definition reaches itself when references only lead down. -/
theorem acyclic_of_rank (rank : String → Nat)
    (h : ∀ name name', d.LeadsTo name name' → rank name' < rank name) : d.Acyclic := by
  have hdown : ∀ name name', TransGen d.LeadsTo name name' → rank name' < rank name := by
    intro name name' hpath
    induction hpath with
    | single hstep => exact h _ _ hstep
    | tail _ hstep ih => exact Nat.lt_trans (h _ _ hstep) ih
  intro name hcycle
  exact Nat.lt_irrefl _ (hdown name name hcycle)

/-- A reference points at the body of the definition that it names. -/
theorem schemaAt?_eq (target : String) :
    d.schemaAt? target = (name? "schemas" target).bind d.bodyOf? := by
  unfold schemaAt? namedSchemaAt?
  cases name? "schemas" target with
  | none => rfl
  | some name => rfl

theorem schemaAt?_eq_some_iff {target : String} {b : SchemaBody Schema} :
    d.schemaAt? target = some b ↔
      ∃ name, name? "schemas" target = some name ∧ d.bodyOf? name = some b := by
  rw [schemaAt?_eq]
  exact Option.bind_eq_some_iff

/-- What has a body is declared. -/
theorem mem_keys_of_bodyOf? {name : String} {b : SchemaBody Schema} (h : d.bodyOf? name = some b) :
    name ∈ d.schemas.keys := by
  obtain ⟨s, hs, -⟩ := Option.bind_eq_some_iff.mp h
  exact Table.mem_keys_of_get? hs

/-! ## §3. The invariant. -/

/-- Every reference in progress has led to whatever the schema refers to. -/
def Led (d : Document) (visited : List String) (s : Schema) : Prop :=
  ∀ taken ∈ visited, ∀ target, s.RefersTo target →
    ∀ name name', name? "schemas" taken = some name → name? "schemas" target = some name' →
      TransGen d.LeadsTo name name'

theorem led_nil (s : Schema) : d.Led [] s := fun _ h => absurd h List.not_mem_nil

/-- **Step**: what a member refers to, the schema refers to. -/
theorem Led.member {visited : List String} {b : SchemaBody Schema} {s : Schema}
    (h : d.Led visited (.inline b)) (hs : s ∈ b.members) : d.Led visited s := by
  intro taken htaken target htarget
  exact h taken htaken target (.member hs htarget)

/-- **Step**: a reference that is replaced leads to whatever the body behind it refers to. -/
theorem Led.expand {visited : List String} {target : String} {b : SchemaBody Schema}
    (h : d.Led visited (.ref target)) (hb : d.schemaAt? target = some b) :
    d.Led (target :: visited) (.inline b) := by
  obtain ⟨middle, hmiddle, hbody⟩ := schemaAt?_eq_some_iff.mp hb
  intro taken htaken below hbelow name name' hname hname'
  have hlast : d.LeadsTo middle name' := ⟨b, below, hbody, hbelow, hname'⟩
  rcases List.mem_cons.mp htaken with rfl | htaken
  · rw [hmiddle] at hname
    cases hname
    exact .single hlast
  · have hpath : TransGen d.LeadsTo name middle :=
      h taken htaken target .ref name middle hname hmiddle
    exact .tail hpath hlast

/-- In an acyclic document no reference with a target is met while it is in progress. -/
theorem Led.not_mem {visited : List String} {target : String} {b : SchemaBody Schema}
    (h : d.Led visited (.ref target)) (hd : d.Acyclic) (hb : d.schemaAt? target = some b) :
    target ∉ visited := by
  intro hseen
  obtain ⟨name, hname, -⟩ := schemaAt?_eq_some_iff.mp hb
  exact hd name (h target hseen target .ref name name hname hname)

/-- **Run**: the references that are left in an acyclic document point nowhere. -/
theorem schemaAt?_of_refersTo_inlineFrom (hd : d.Acyclic) (visited : List String) (s : Schema)
    (hled : d.Led visited s) {target : String}
    (h : (d.inlineFrom visited s).RefersTo target) : d.schemaAt? target = none := by
  induction visited, s using inlineFrom_induct d with
  | seen visited taken hseen =>
    rw [inlineFrom_ref, if_pos hseen, refersTo_ref_iff] at h
    subst h
    cases hb : d.schemaAt? target with
    | none => rfl
    | some b => exact absurd hseen (hled.not_mem hd hb)
  | dangling visited taken hseen hnone =>
    rw [inlineFrom_ref, if_neg hseen, hnone, refersTo_ref_iff] at h
    rw [h]
    exact hnone
  | expand visited taken b hseen hb ih =>
    rw [inlineFrom_ref, if_neg hseen, hb] at h
    exact ih (hled.expand hb) h
  | inline visited b ih =>
    rw [inlineFrom_inline, refersTo_inline_iff, SchemaBody.members_mapMembers] at h
    obtain ⟨s', hs', h⟩ := h
    obtain ⟨s, hs, rfl⟩ := List.mem_map.mp hs'
    exact ih s hs (hled.member hs) h

/-! ## §4. Inlining twice. -/

/-- A schema whose references all point nowhere stays as it is. -/
theorem inlineFrom_eq_self (visited : List String) (s : Schema)
    (h : ∀ target, s.RefersTo target → d.schemaAt? target = none) : d.inlineFrom visited s = s := by
  induction visited, s using inlineFrom_induct d with
  | seen visited target hseen => rw [inlineFrom_ref, if_pos hseen]
  | dangling visited target hseen hnone => rw [inlineFrom_ref, if_neg hseen, hnone]
  | expand visited target b hseen hb ih =>
    rw [h target .ref] at hb
    cases hb
  | inline visited b ih =>
    have hmembers : ∀ s ∈ b.members, d.inlineFrom visited s = id s := by
      intro s hs
      exact ih s hs fun target htarget => h target (.member hs htarget)
    rw [inlineFrom_inline, mapMembers_congr hmembers, SchemaBody.mapMembers_id]

/-- **A SCHEMA IS INLINED ONCE AND FOR ALL** in an acyclic document. -/
theorem inlineSchema_inlineSchema (hd : d.Acyclic) (s : Schema) :
    d.inlineSchema (d.inlineSchema s) = d.inlineSchema s := by
  apply inlineFrom_eq_self
  intro target htarget
  exact schemaAt?_of_refersTo_inlineFrom hd [] s (led_nil s) htarget

/-! ## §5. Resolving twice. -/

section Twice

variable {α κ : Type} {f : α → α} (h : ∀ a, f (f a) = f a)
include h

/-- Replacing references a second time changes nothing when changing the values does not. -/
theorem mapInline_target_twice (lookup : String → Option α) (x : OrRef α) :
    Inlining.mapInline f (Inlining.target lookup (Inlining.mapInline f (Inlining.target lookup x)))
      = Inlining.mapInline f (Inlining.target lookup x) := by
  cases x with
  | inline a => exact congrArg OrRef.inline (h a)
  | ref target =>
    cases hfound : lookup target with
    | some a =>
      simp only [Inlining.target, hfound, Inlining.mapInline]
      exact congrArg OrRef.inline (h a)
    | none => simp only [Inlining.target, hfound, Inlining.mapInline]

theorem map_twice (l : List α) : (l.map f).map f = l.map f := by
  rw [List.map_map]
  exact List.map_congr_left fun a _ => h a

theorem option_map_twice (o : Option α) : (o.map f).map f = o.map f := by
  cases o with
  | none => rfl
  | some a => exact congrArg some (h a)

theorem mapValues_twice (t : Table κ α) : (t.mapValues f).mapValues f = t.mapValues f := by
  rw [Table.mapValues_mapValues, Table.mapValues_eq_iff]
  exact fun a _ => h a

end Twice

section Parts

variable (hd : d.Acyclic)
include hd

theorem inlineParameter_twice (p : Parameter) :
    d.inlineParameter (d.inlineParameter p) = d.inlineParameter p := by
  cases hbody : p.isBody with
  | true => rw [inlineParameter_of_isBody d hbody, inlineParameter_of_isBody d hbody]
  | false =>
    -- inlining does not move a parameter, so the second pass inlines it too
    have hbody' : (d.inlineParameter p).isBody = false := by
      rw [inlineParameter_of_not_isBody d hbody]
      exact hbody
    rw [inlineParameter_of_not_isBody d hbody', inlineParameter_of_not_isBody d hbody]
    show { p with
      schema := (p.schema.map d.inlineSchema).map d.inlineSchema
      items := (p.items.map d.inlineSchema).map d.inlineSchema } = _
    rw [option_map_twice (inlineSchema_inlineSchema hd),
      option_map_twice (inlineSchema_inlineSchema hd)]

theorem inlineHeader_twice (x : Header) : d.inlineHeader (d.inlineHeader x) = d.inlineHeader x := by
  show { x with schema := (x.schema.map d.inlineSchema).map d.inlineSchema } = _
  rw [option_map_twice (inlineSchema_inlineSchema hd)]
  rfl

theorem inlineResponse_twice (r : Response) :
    d.inlineResponse (d.inlineResponse r) = d.inlineResponse r := by
  show { r with headers := (r.headers.mapValues d.resolveHeader).mapValues d.resolveHeader } = _
  rw [mapValues_twice (mapInline_target_twice (inlineHeader_twice hd) d.headerAt?)]
  rfl

theorem resolveOperation_twice (o : Operation) :
    d.resolveOperation (d.resolveOperation o) = d.resolveOperation o := by
  have hbody : ∀ x, Inlining.target d.bodyAt? (Inlining.target d.bodyAt? x)
      = Inlining.target d.bodyAt? x := by
    intro x
    cases x with
    | inline b => rfl
    | ref target => cases hfound : d.bodyAt? target <;> simp only [Inlining.target, hfound]
  show { o with
    parameters := (o.parameters.map d.resolveParameter).map d.resolveParameter
    requestBody := (o.requestBody.map (Inlining.target d.bodyAt?)).map (Inlining.target d.bodyAt?)
    responses := (o.responses.mapValues d.resolveResponse).mapValues d.resolveResponse } = _
  rw [map_twice (mapInline_target_twice (inlineParameter_twice hd) d.parameterAt?),
    option_map_twice hbody,
    mapValues_twice (mapInline_target_twice (inlineResponse_twice hd) d.responseAt?)]
  rfl

theorem resolveItem_twice (item : PathItem) :
    d.resolveItem (d.resolveItem item) = d.resolveItem item := by
  show { item with
    parameters := (item.parameters.map d.resolveParameter).map d.resolveParameter
    operations := (item.operations.mapValues d.resolveOperation).mapValues d.resolveOperation } = _
  rw [map_twice (mapInline_target_twice (inlineParameter_twice hd) d.parameterAt?),
    mapValues_twice (resolveOperation_twice hd)]
  rfl

end Parts

/-- The tables of a resolved document are those of the document. -/
theorem sameDefinitions_resolve (d : Document) : SameDefinitions d d.resolve := by
  rw [resolve_eq]
  exact ⟨rfl, rfl, rfl, rfl, rfl⟩

/-- **WHERE NO DEFINITION REACHES ITSELF, RESOLVING TWICE IS RESOLVING ONCE.**  So a document
compiles as the resolved one does, with any models, those of the document itself among them. -/
theorem resolve_resolve (d : Document) (h : d.Acyclic) :
    d.resolve.resolve = d.resolve ∧
    (∀ models options, d.resolve.compile models options = d.compile models options) ∧
    ∀ dir options, d.resolve.compile (.ofDocument d.resolve dir) options
      = d.compile (.ofDocument d dir) options := by
  have htwice : d.resolve.resolve = d.resolve := by
    rw [resolve_eq d.resolve, (sameDefinitions_resolve d).resolveItem_eq]
    conv_rhs => rw [resolve_eq]
    rw [resolve_eq]
    show { d with paths :=
      (d.paths.map (Table.mapValues d.resolveItem)).map (Table.mapValues d.resolveItem) } = _
    rw [option_map_twice (mapValues_twice (resolveItem_twice h))]
  have hcompile : ∀ models options,
      d.resolve.compile models options = d.compile models options := by
    intro models options
    unfold compile
    rw [htwice]
  have hmodels : ∀ dir, Models.ofDocument d.resolve dir = Models.ofDocument d dir := by
    intro dir
    rw [resolve_eq]
    rfl
  refine ⟨htwice, hcompile, ?_⟩
  intro dir options
  rw [hmodels, hcompile]

/-- A node of a garden refers to a kind, which passes on to a word; to something far, which passes
    on to the kind and so too often; and to something that is missing. -/
def gardenNode : SchemaBody Schema where
  properties := [("kind", .ref "#/schemas/Kind"), ("far", .ref "#/definitions/Far")]
  items := some (.ref "#/definitions/Missing")

/-- The nodes of a garden are filtered by a node, and the answer has a kind for a header. -/
def gardenDocument : Document where
  swagger := some "2.0"
  paths := some [("/nodes", {
    parameters := [.ref "#/parameters/filter", .ref "#/parameters/missing"]
    operations := [(.get, {
      operationId := some "listNodes"
      responses := [("200", .ref "#/responses/page")] })] })]
  components := some {
    headers := [("kind", .inline { schema := some (.ref "#/definitions/Kind") })] }
  definitions := [
    ("Node", .inline gardenNode),
    ("Kind", .ref "#/components/schemas/Word"),
    ("Word", .inline { type := some (.one .string) }),
    ("Far", .ref "#/definitions/Kind")]
  parameters := [("filter", .inline {
    name := "filter", location := .known .query, schema := some (.ref "#/definitions/Node") })]
  responses := [("page", .inline { headers := [("X-Kind", .ref "#/components/headers/kind")] })]

/-- Only the definition of a node leads to others, and these lead nowhere. -/
theorem acyclic_gardenDocument : gardenDocument.Acyclic := by
  apply acyclic_of_rank fun name => if name = "Node" then 1 else 0
  rintro name name' ⟨b, target, hb, htarget, hname'⟩
  rw [refersTo_inline_iff] at htarget
  obtain ⟨s, hs, htarget⟩ := htarget
  have hdeclared := mem_keys_of_bodyOf? hb
  have hkeys : gardenDocument.schemas.keys = ["Node", "Kind", "Word", "Far"] := rfl
  rw [hkeys] at hdeclared
  simp only [List.mem_cons, List.not_mem_nil, or_false] at hdeclared
  rcases hdeclared with rfl | rfl | rfl | rfl
  · cases hb
    have hmembers : gardenNode.members = [.ref "#/schemas/Kind", .ref "#/definitions/Far",
        .ref "#/definitions/Missing"] := rfl
    rw [hmembers] at hs
    simp only [List.mem_cons, List.not_mem_nil, or_false] at hs
    rcases hs with rfl | rfl | rfl
    all_goals
      rw [refersTo_ref_iff] at htarget
      subst htarget
      cases hname'
      decide
  · cases hb
    cases hs
  · cases hb
    cases hs
  · cases hb

/-- The filter is inlined as far as its references lead somewhere, and a second pass finds nothing
    to replace. -/
theorem resolve_resolve_gardenDocument :
    gardenDocument.Acyclic ∧
    gardenDocument.inlineSchema (.ref "#/definitions/Node") = .inline { gardenNode with
      properties := [("kind", .inline { type := some (.one .string) }),
        ("far", .ref "#/definitions/Far")] } ∧
    gardenDocument.resolve.resolve = gardenDocument.resolve ∧
    gardenDocument.resolve.compile .none {} = gardenDocument.compile .none {} := by
  obtain ⟨htwice, hcompile, -⟩ := resolve_resolve gardenDocument acyclic_gardenDocument
  refine ⟨acyclic_gardenDocument, ?_, htwice, hcompile .none {}⟩
  have hnode : gardenDocument.schemaAt? "#/definitions/Node" = some gardenNode := rfl
  have hkind : gardenDocument.schemaAt? "#/schemas/Kind"
      = some { type := some (.one .string) } := rfl
  have hfar : gardenDocument.schemaAt? "#/definitions/Far" = none := rfl
  have hmissing : gardenDocument.schemaAt? "#/definitions/Missing" = none := rfl
  simp [inlineSchema, inlineFrom_ref, inlineFrom_inline, hnode, hkind, hfar, hmissing, gardenNode,
    SchemaBody.mapMembers, Table.mapValues]

end ApiMethods.Document
