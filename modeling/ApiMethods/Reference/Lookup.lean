/-
  ApiMethods.Reference.Lookup — what the references of a document point at.

  Every kind of definition has its table, and a reference finds the definition when its
  section and its name fit.  A definition that is itself a reference is no target, except
  that a named schema may pass on to another named schema, once.
-/
import ApiMethods.Document.Basic
import ApiMethods.Reference.Name

namespace ApiMethods.Document

open ApiMethods.Source (OrRef)
open ApiMethods.Reference (name?)

/-! ## §1. Lookup -/

/-- The definition in a table that a reference points at. -/
def definitionAt? {α : Type} (table : Table String (OrRef α)) (expected target : String) :
    Option α := do
  let name ← name? expected target
  let found ← table.get? name
  found.inline?

/-- The named schema that a reference points at. -/
def namedSchemaAt? (d : Document) (target : String) : Option Schema := do
  let name ← name? "schemas" target
  d.schemas.get? name

/-- The keywords of the schema that a reference points at, directly or through one more
    reference. -/
def schemaAt? (d : Document) (target : String) : Option (SchemaBody Schema) := do
  match ← d.namedSchemaAt? target with
  | .inline body => some body
  | .ref next => do
    let s ← d.namedSchemaAt? next
    s.body?

/-- The parameter that a reference points at. -/
def parameterAt? (d : Document) (target : String) : Option Parameter :=
  definitionAt? d.namedParameters "parameters" target

/-- The request body that a reference points at. -/
def bodyAt? (d : Document) (target : String) : Option RequestBody :=
  definitionAt? d.namedBodies "requestBodies" target

/-- The response that a reference points at. -/
def responseAt? (d : Document) (target : String) : Option Response :=
  definitionAt? d.namedResponses "responses" target

/-- The header that a reference points at. -/
def headerAt? (d : Document) (target : String) : Option Header :=
  definitionAt? d.namedHeaders "headers" target

/-! ## §2. All references to schemas -/

/-- Every spelling of a reference to a named schema. -/
def schemaReferences (d : Document) : List String :=
  d.schemas.keys.flatMap Reference.schemaSpellings

/-- Only finitely many references lead to a schema. -/
theorem mem_schemaReferences {d : Document} {target : String} {b : SchemaBody Schema}
    (h : d.schemaAt? target = some b) : target ∈ d.schemaReferences := by
  unfold schemaAt? namedSchemaAt? at h
  simp only [Option.bind_eq_bind, Option.bind_eq_some_iff] at h
  obtain ⟨s, ⟨name, hname, hs⟩, -⟩ := h
  exact List.mem_flatMap.mpr ⟨name, Table.mem_keys_of_get? hs, Reference.mem_schemaSpellings hname⟩

end ApiMethods.Document
