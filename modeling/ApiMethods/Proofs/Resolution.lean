/-
  ApiMethods.Proofs.Resolution
  ────────────────────────────
  **ONE WORKING SET LEAVES NO TRACE.**

  The parts of a document share one set of references in progress.  A part that left a
  reference behind would change what the parts after it become.  The INVARIANT is that the
  set is empty between any two parts, so that every part becomes what it would become alone:

      Inlining.document d []  =  (d with every part replaced on its own, [])

  The right side is a plain map over the document, and later modules reason about that map.
  `inlineFrom_induct` is the induction that inlining itself follows: over the references that
  are left to replace, and below each of them over the members of a schema.
-/
import ApiMethods.Reference.Resolve

namespace ApiMethods

open ApiMethods.Source (OrRef)
open Document (Schema SchemaBody Parameter Header RequestBody Response Operation PathItem)

/-! ## §1. Work that leaves nothing behind. -/

namespace Inlining

variable {α β κ : Type}

/-- Started with no reference in progress, the work gives `a` and ends with none in progress. -/
def Gives (w : Inlining α) (a : α) : Prop := w [] = (a, [])

theorem gives_pure (a : α) : Gives (pure a) a := rfl

theorem Gives.bind {w : Inlining α} {f : α → Inlining β} {a : α} {b : β}
    (hw : Gives w a) (hf : Gives (f a) b) : Gives (w >>= f) b := by
  show (match w [] with | (a, visited) => f a visited) = (b, [])
  rw [show w [] = (a, []) from hw]
  exact hf

theorem Gives.map {w : Inlining α} {a : α} (hw : Gives w a) (f : α → β) :
    Gives (f <$> w) (f a) := by
  show (match w [] with | (a, visited) => (f a, visited)) = (f a, [])
  rw [show w [] = (a, []) from hw]

/-- The last step of a part puts its pieces together. -/
theorem Gives.then {w : Inlining α} {a : α} (hw : Gives w a) (f : α → β) :
    Gives (w >>= fun x => pure (f x)) (f a) := hw.bind (gives_pure (f a))

/-- **One part after the other**: when every step leaves nothing behind, the steps do not see each
other. -/
theorem gives_mapM {f : α → Inlining β} {g : α → β} (h : ∀ a, Gives (f a) (g a)) (l : List α) :
    Gives (l.mapM f) (l.map g) := by
  induction l with
  | nil => exact gives_pure []
  | cons a rest ih =>
    rw [List.mapM_cons]
    exact (h a).bind (ih.then fun rest => g a :: rest)

theorem gives_option {f : α → Inlining β} {g : α → β} (h : ∀ a, Gives (f a) (g a))
    (o : Option α) : Gives (o.mapM f) (o.map g) := by
  cases o with
  | none => exact gives_pure none
  | some a => exact (h a).map some

theorem gives_onValues {f : α → Inlining α} {g : α → α} (h : ∀ a, Gives (f a) (g a))
    (t : Table κ α) : Gives (onValues f t) (Table.mapValues g t) := by
  have step : ∀ e : κ × α, Gives (do return (e.1, ← f e.2)) (e.1, g e.2) :=
    fun e => (h e.2).then (Prod.mk e.1)
  exact gives_mapM step t

/-- A value that is there changed, a reference kept. -/
def mapInline (f : α → α) : OrRef α → OrRef α
  | .inline a => .inline (f a)
  | .ref r => .ref r

theorem gives_onInline {f : α → Inlining α} {g : α → α} (h : ∀ a, Gives (f a) (g a))
    (x : OrRef α) : Gives (onInline f x) (mapInline g x) := by
  cases x with
  | inline a => exact (h a).then OrRef.inline
  | ref r => exact gives_pure (OrRef.ref r)

end Inlining

/-! ## §2. What the parts become. -/

namespace Document

open Inlining

/-- What a schema becomes. -/
def inlineSchema (d : Document) (s : Schema) : Schema := d.inlineFrom [] s

/-- What a parameter becomes. -/
def inlineParameter (d : Document) (p : Parameter) : Parameter :=
  if p.isBody then p
  else { p with schema := p.schema.map d.inlineSchema, items := p.items.map d.inlineSchema }

theorem inlineParameter_of_isBody (d : Document) {p : Parameter} (h : p.isBody = true) :
    d.inlineParameter p = p := if_pos h

theorem inlineParameter_of_not_isBody (d : Document) {p : Parameter} (h : p.isBody = false) :
    d.inlineParameter p =
      { p with schema := p.schema.map d.inlineSchema, items := p.items.map d.inlineSchema } :=
  if_neg (Bool.eq_false_iff.mp h)

/-- What a parameter or a reference to one becomes. -/
def resolveParameter (d : Document) (p : OrRef Parameter) : OrRef Parameter :=
  mapInline d.inlineParameter (target d.parameterAt? p)

/-- What a header becomes. -/
def inlineHeader (d : Document) (h : Header) : Header :=
  { h with schema := h.schema.map d.inlineSchema }

/-- What a header or a reference to one becomes. -/
def resolveHeader (d : Document) (h : OrRef Header) : OrRef Header :=
  mapInline d.inlineHeader (target d.headerAt? h)

/-- What a response becomes. -/
def inlineResponse (d : Document) (r : Response) : Response :=
  { r with headers := r.headers.mapValues d.resolveHeader }

/-- What a response or a reference to one becomes. -/
def resolveResponse (d : Document) (r : OrRef Response) : OrRef Response :=
  mapInline d.inlineResponse (target d.responseAt? r)

/-- What an operation becomes. -/
def resolveOperation (d : Document) (o : Operation) : Operation :=
  { o with
    parameters := o.parameters.map d.resolveParameter
    requestBody := o.requestBody.map (target d.bodyAt?)
    responses := o.responses.mapValues d.resolveResponse }

/-- What a path item becomes. -/
def resolveItem (d : Document) (item : PathItem) : PathItem :=
  { item with
    parameters := item.parameters.map d.resolveParameter
    operations := item.operations.mapValues d.resolveOperation }

end Document

namespace Inlining

theorem gives_schema (d : Document) (s : Schema) : Gives (schema d s) (d.inlineSchema s) := by
  show ((d.inlineWith [] s).1, (d.inlineWith [] s).2.val) = (d.inlineSchema s, [])
  rw [(d.inlineWith [] s).2.property]
  rfl

theorem gives_inlineParameter (d : Document) (p : Parameter) :
    Gives (inlineParameter d p) (d.inlineParameter p) := by
  unfold inlineParameter Document.inlineParameter
  split
  · exact gives_pure p
  · exact (gives_option (gives_schema d) p.schema).bind
      ((gives_option (gives_schema d) p.items).then _)

theorem gives_parameter (d : Document) (p : OrRef Parameter) :
    Gives (parameter d p) (d.resolveParameter p) :=
  gives_onInline (gives_inlineParameter d) _

theorem gives_inlineHeader (d : Document) (h : Header) :
    Gives (inlineHeader d h) (d.inlineHeader h) :=
  (gives_option (gives_schema d) h.schema).then _

theorem gives_header (d : Document) (h : OrRef Header) :
    Gives (header d h) (d.resolveHeader h) :=
  gives_onInline (gives_inlineHeader d) _

theorem gives_inlineResponse (d : Document) (r : Response) :
    Gives (inlineResponse d r) (d.inlineResponse r) :=
  (gives_onValues (gives_header d) r.headers).then _

theorem gives_response (d : Document) (r : OrRef Response) :
    Gives (response d r) (d.resolveResponse r) :=
  gives_onInline (gives_inlineResponse d) _

theorem gives_operation (d : Document) (o : Operation) :
    Gives (operation d o) (d.resolveOperation o) :=
  (gives_mapM (gives_parameter d) o.parameters).bind
    ((gives_onValues (gives_response d) o.responses).then _)

theorem gives_pathItem (d : Document) (item : PathItem) :
    Gives (pathItem d item) (d.resolveItem item) :=
  (gives_mapM (gives_parameter d) item.parameters).bind
    ((gives_onValues (gives_operation d) item.operations).then _)

/-- **THE WORKING SET IS EMPTY AGAIN**: a document is replaced part by part, and no reference is
in progress at the end. -/
theorem gives_document (d : Document) :
    Gives (document d) { d with paths := d.paths.map (Table.mapValues d.resolveItem) } :=
  (gives_option (gives_onValues (gives_pathItem d)) d.paths).then _

end Inlining

namespace Document

/-- A resolved document is the document with every path item resolved on its own. -/
theorem resolve_eq (d : Document) :
    d.resolve = { d with paths := d.paths.map (Table.mapValues d.resolveItem) } :=
  congrArg Prod.fst (Inlining.gives_document d)

/-! ## §3. The induction that inlining follows. -/

/-- The members of a body: its properties and its items. -/
def SchemaBody.members {σ : Type} (b : SchemaBody σ) : List σ :=
  Table.values b.properties ++ b.items.toList

theorem sizeOf_lt_of_mem_members {b : SchemaBody Schema} {s : Schema} (hs : s ∈ b.members) :
    sizeOf s < sizeOf (Schema.inline b) := by
  obtain ⟨_, _, _, _, properties, _, _, items, _, _, _, _, _, _⟩ := b
  simp only [SchemaBody.members, Table.values, List.mem_append, List.mem_map,
    Option.mem_toList] at hs
  simp only [Schema.inline.sizeOf_spec, SchemaBody.mk.sizeOf_spec]
  rcases hs with ⟨⟨k, s'⟩, he, rfl⟩ | hi
  · have := List.sizeOf_lt_of_mem he
    simp only [Prod.mk.sizeOf_spec] at this
    show sizeOf s' < _
    omega
  · cases items with
    | none => simp at hi
    | some i =>
      obtain rfl : i = s := by simpa using hi
      simp only [Option.some.sizeOf_spec]
      omega

theorem mapMembers_congr {σ : Type} {f g : σ → σ} {b : SchemaBody σ}
    (h : ∀ s ∈ b.members, f s = g s) : b.mapMembers f = b.mapMembers g := by
  have hp : Table.mapValues f b.properties = Table.mapValues g b.properties := by
    refine List.map_congr_left fun e he => ?_
    rw [h e.2 (List.mem_append_left _ (List.mem_map_of_mem he))]
  have hi : b.items.map f = b.items.map g := by
    refine Option.map_congr fun s hs => ?_
    exact h s (List.mem_append_right _ (Option.mem_toList.mpr hs))
  unfold SchemaBody.mapMembers
  rw [hp, hi]

/-- **Induction along inlining**: a reference that is replaced leaves fewer to replace, and the
members of a schema are smaller than the schema. -/
theorem inlineFrom_induct (d : Document) {motive : List String → Schema → Prop}
    (seen : ∀ visited target, target ∈ visited → motive visited (.ref target))
    (dangling : ∀ visited target, target ∉ visited → d.schemaAt? target = none →
      motive visited (.ref target))
    (expand : ∀ visited target b, target ∉ visited → d.schemaAt? target = some b →
      motive (target :: visited) (.inline b) → motive visited (.ref target))
    (inline : ∀ visited b, (∀ s ∈ b.members, motive visited s) → motive visited (.inline b)) :
    ∀ (visited : List String) (s : Schema), motive visited s
  | visited, .ref target => by
      by_cases hv : target ∈ visited
      · exact seen visited target hv
      · cases h : d.schemaAt? target with
        | none => exact dangling visited target hv h
        | some b =>
          exact expand visited target b hv h
            (inlineFrom_induct d seen dangling expand inline (target :: visited) (.inline b))
  | visited, .inline b =>
      inline visited b fun s _ => inlineFrom_induct d seen dangling expand inline visited s
termination_by visited s => (d.unexpanded visited, sizeOf s)
decreasing_by
  · exact Prod.Lex.left _ _ (unexpanded_lt hv h)
  · exact Prod.Lex.right _ (sizeOf_lt_of_mem_members ‹_›)

/-- Inlining looks at nothing in a document but its named schemas. -/
theorem inlineFrom_congr {d d' : Document} (h : d'.schemaAt? = d.schemaAt?)
    (visited : List String) (s : Schema) : d'.inlineFrom visited s = d.inlineFrom visited s := by
  induction visited, s using inlineFrom_induct d with
  | seen visited target hv =>
    rw [inlineFrom_ref, inlineFrom_ref, if_pos hv, if_pos hv]
  | dangling visited target hv hd =>
    rw [inlineFrom_ref, inlineFrom_ref, if_neg hv, if_neg hv, h, hd]
  | expand visited target b hv hb ih =>
    rw [inlineFrom_ref, inlineFrom_ref, if_neg hv, if_neg hv, h, hb]
    exact ih
  | inline visited b ih =>
    rw [inlineFrom_inline, inlineFrom_inline]
    exact congrArg Schema.inline (mapMembers_congr ih)

/-! ## §4. Documents with the same definitions. -/

/-- Two documents find the same behind every reference. -/
structure SameDefinitions (d d' : Document) : Prop where
  schemas : d'.schemaAt? = d.schemaAt?
  parameters : d'.parameterAt? = d.parameterAt?
  headers : d'.headerAt? = d.headerAt?
  bodies : d'.bodyAt? = d.bodyAt?
  responses : d'.responseAt? = d.responseAt?

namespace SameDefinitions

variable {d d' : Document} (h : SameDefinitions d d')
include h

theorem inlineSchema_eq : d'.inlineSchema = d.inlineSchema := by
  funext s
  exact inlineFrom_congr h.schemas [] s

theorem resolveParameter_eq : d'.resolveParameter = d.resolveParameter := by
  have hinline : d'.inlineParameter = d.inlineParameter := by
    funext p
    unfold inlineParameter
    rw [h.inlineSchema_eq]
  funext p
  unfold resolveParameter
  rw [hinline, h.parameters]

theorem resolveHeader_eq : d'.resolveHeader = d.resolveHeader := by
  have hinline : d'.inlineHeader = d.inlineHeader := by
    funext header
    unfold inlineHeader
    rw [h.inlineSchema_eq]
  funext header
  unfold resolveHeader
  rw [hinline, h.headers]

theorem resolveResponse_eq : d'.resolveResponse = d.resolveResponse := by
  have hinline : d'.inlineResponse = d.inlineResponse := by
    funext r
    unfold inlineResponse
    rw [h.resolveHeader_eq]
  funext r
  unfold resolveResponse
  rw [hinline, h.responses]

/-- Documents with the same definitions resolve operations alike. -/
theorem resolveOperation_eq : d'.resolveOperation = d.resolveOperation := by
  funext o
  unfold resolveOperation
  rw [h.resolveParameter_eq, h.resolveResponse_eq, h.bodies]

/-- And path items. -/
theorem resolveItem_eq : d'.resolveItem = d.resolveItem := by
  funext item
  unfold resolveItem
  rw [h.resolveParameter_eq, h.resolveOperation_eq]

end SameDefinitions

end Document

end ApiMethods
