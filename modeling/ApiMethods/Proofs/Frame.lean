/-
  ApiMethods.Proofs.Frame
  ───────────────────────
  **RESOLVING A DOCUMENT CHANGES REFERENCES AND NOTHING ELSE.**

  The resolved document has the same paths, verbs, parameters, status codes and header names, in the
  same order.  Position by position:

      a reference          the definition under its name, or the reference as it was
      a parameter          may change in its schema and its items; a body in the older form does not
      a request body       does not change
      a response           may change in its headers, under the same names
      a response header    may change in its schema
      an operation         may change in its parameters, its request body and its responses
      a path item          may change in its parameters and its operations
      the document         may change in its paths

  So the schema of a body, wherever it stands, is the one that was declared, and a reference in it
  still names the model that it named.

  Each line of the table is a relation (`ParameterFramed` and so on), and `resolve_framed` puts them
  together, from the parts to the whole.
-/
import ApiMethods.Proofs.Unfolding

namespace ApiMethods

open ApiMethods.Source (OrRef)
open ApiMethods.Reference (name?)

namespace Document

/-! ## §1. References. -/

/-- What may become of a value or a reference: a value becomes a related one, a reference becomes
    one that is related to the definition under its name, and without a definition it is kept. -/
inductive Replaced {α : Type} (table : Table String (OrRef α)) (kind : String)
    (R : α → α → Prop) : OrRef α → OrRef α → Prop
  | inline {a a' : α} : R a a' → Replaced table kind R (.inline a) (.inline a')
  | definition {target name : String} {a a' : α} : name? kind target = some name →
      table.get? name = some (.inline a) → R a a' → Replaced table kind R (.ref target) (.inline a')
  | kept {target : String} :
      (∀ name a, name? kind target = some name → table.get? name ≠ some (.inline a)) →
      Replaced table kind R (.ref target) (.ref target)

section References

variable {α : Type} {table : Table String (OrRef α)} {kind target : String}

/-- A reference points at the definition under its name. -/
theorem definitionAt?_eq_some_iff {a : α} :
    definitionAt? table kind target = some a ↔
      ∃ name, name? kind target = some name ∧ table.get? name = some (.inline a) := by
  have hinline : ∀ x : OrRef α, x.inline? = some a ↔ x = .inline a := by
    intro x
    cases x <;> simp [OrRef.inline?]
  simp [definitionAt?, Option.bind_eq_some_iff, hinline]

/-- What is looked up in a table is replaced from it. -/
theorem Looked.replaced {R : α → α → Prop} {x x' : OrRef α}
    (h : Looked (definitionAt? table kind) R x x') : Replaced table kind R x x' := by
  cases h with
  | inline hR => exact .inline hR
  | target hfound hR =>
    obtain ⟨name, hname, hget⟩ := definitionAt?_eq_some_iff.mp hfound
    exact .definition hname hget hR
  | dangling hnone =>
    apply Replaced.kept
    intro name a hname hget
    have hfound : definitionAt? table kind _ = some a :=
      definitionAt?_eq_some_iff.mpr ⟨name, hname, hget⟩
    rw [hnone] at hfound
    cases hfound

/-- Looking up and then changing the value replaces. -/
theorem replaced_mapInline {R : α → α → Prop} {f : α → α} (h : ∀ a, R a (f a)) (x : OrRef α) :
    Replaced table kind R x
      (Inlining.mapInline f (Inlining.target (definitionAt? table kind) x)) :=
  (looked_mapInline h _ x).replaced

end References

/-! ## §2. Parameters and bodies. -/

/-- A parameter changes in its schema and its items at most, neither of which appears or disappears,
    and a body in the older form does not change. -/
structure ParameterFramed (p p' : Parameter) : Prop where
  others : p' = { p with schema := p'.schema, items := p'.items }
  schema : p'.schema.isSome = p.schema.isSome
  items : p'.items.isSome = p.items.isSome
  body : p.isBody = true → p' = p

theorem parameterFramed_inlineParameter (d : Document) (p : Parameter) :
    ParameterFramed p (d.inlineParameter p) := by
  cases hbody : p.isBody with
  | true =>
    rw [inlineParameter_of_isBody d hbody]
    exact ⟨rfl, rfl, rfl, fun _ => rfl⟩
  | false =>
    rw [inlineParameter_of_not_isBody d hbody]
    refine ⟨rfl, Option.isSome_map, Option.isSome_map, ?_⟩
    intro hbody'
    rw [hbody] at hbody'
    cases hbody'

theorem replaced_resolveParameter (d : Document) (x : OrRef Parameter) :
    Replaced d.namedParameters "parameters" ParameterFramed x (d.resolveParameter x) :=
  replaced_mapInline (parameterFramed_inlineParameter d) x

/-- A request body is taken as it is declared. -/
theorem replaced_body (d : Document) (x : OrRef RequestBody) :
    Replaced d.namedBodies "requestBodies" Eq x (Inlining.target d.bodyAt? x) := by
  have hsame : ∀ y : OrRef RequestBody, Inlining.mapInline id y = y := by
    intro y
    cases y <;> rfl
  rw [← hsame (Inlining.target d.bodyAt? x)]
  exact replaced_mapInline (fun _ => rfl) x

/-! ## §3. Responses. -/

/-- A header changes in its schema at most, which neither appears nor disappears. -/
structure HeaderFramed (h h' : Header) : Prop where
  others : h' = { h with schema := h'.schema }
  schema : h'.schema.isSome = h.schema.isSome

theorem headerFramed_inlineHeader (d : Document) (h : Header) : HeaderFramed h (d.inlineHeader h) :=
  ⟨rfl, Option.isSome_map⟩

/-- A response changes in its headers at most, and these are replaced one by one.  The schemas of
    its body stay as they are, by media type and in the older form. -/
structure ResponseFramed (d : Document) (r r' : Response) : Prop where
  others : r' = { r with headers := r'.headers }
  content : r'.content = r.content
  schema : r'.schema = r.schema
  headers : TableRel (Replaced d.namedHeaders "headers" HeaderFramed) r.headers r'.headers

theorem responseFramed_inlineResponse (d : Document) (r : Response) :
    d.ResponseFramed r (d.inlineResponse r) where
  others := rfl
  content := rfl
  schema := rfl
  headers := tableRel_mapValues (replaced_mapInline (headerFramed_inlineHeader d)) r.headers

theorem replaced_resolveResponse (d : Document) (x : OrRef Response) :
    Replaced d.namedResponses "responses" d.ResponseFramed x (d.resolveResponse x) :=
  replaced_mapInline (responseFramed_inlineResponse d) x

/-! ## §4. Operations and path items. -/

/-- An operation changes in its parameters, its request body and its responses at most, and these
    are replaced one by one. -/
structure OperationFramed (d : Document) (o o' : Operation) : Prop where
  others : o' = { o with
    parameters := o'.parameters, requestBody := o'.requestBody, responses := o'.responses }
  parameters : List.Forall₂ (Replaced d.namedParameters "parameters" ParameterFramed)
    o.parameters o'.parameters
  requestBody : Option.Rel (Replaced d.namedBodies "requestBodies" Eq) o.requestBody o'.requestBody
  responses : TableRel (Replaced d.namedResponses "responses" d.ResponseFramed)
    o.responses o'.responses

theorem operationFramed_resolveOperation (d : Document) (o : Operation) :
    d.OperationFramed o (d.resolveOperation o) where
  others := rfl
  parameters := forall₂_map (replaced_resolveParameter d) o.parameters
  requestBody := rel_map (replaced_body d) o.requestBody
  responses := tableRel_mapValues (replaced_resolveResponse d) o.responses

/-- A path item changes in its parameters and its operations at most, one by one. -/
structure ItemFramed (d : Document) (i i' : PathItem) : Prop where
  others : i' = { i with parameters := i'.parameters, operations := i'.operations }
  parameters : List.Forall₂ (Replaced d.namedParameters "parameters" ParameterFramed)
    i.parameters i'.parameters
  operations : TableRel d.OperationFramed i.operations i'.operations

theorem itemFramed_resolveItem (d : Document) (i : PathItem) :
    d.ItemFramed i (d.resolveItem i) where
  others := rfl
  parameters := forall₂_map (replaced_resolveParameter d) i.parameters
  operations := tableRel_mapValues (operationFramed_resolveOperation d) i.operations

/-! ## §5. The document. -/

/-- **RESOLVING CHANGES REFERENCES AND NOTHING ELSE**: a document changes in its paths at most, and
these change, path by path and position by position, in what the relations above allow. -/
theorem resolve_framed (d : Document) :
    d.resolve = { d with paths := d.resolve.paths } ∧
      Option.Rel (TableRel d.ItemFramed) d.paths d.resolve.paths := by
  rw [resolve_eq]
  constructor
  · rfl
  · exact rel_map (tableRel_mapValues (itemFramed_resolveItem d)) d.paths

end Document

end ApiMethods
