/-
  ApiMethods.Proofs.Versions
  ──────────────────────────
  **A DOCUMENT OF VERSION 2 COMPILES AS ITS FORM IN VERSION 3 DOES.**

  Version 2 keeps named schemas, parameters, responses and security schemes at the root, version 3
  under `components`.  The MODERN FORM of a document moves these four tables and leaves everything
  else as it is, references included:

      definitions           components.schemas
      parameters            components.parameters
      responses             components.responses
      securityDefinitions   components.securitySchemes

  Named request bodies and headers stand under `components` in both.  Every look-up then finds in one
  form what it finds in the other (`sameDefinitions_modern`), so every operation has the same
  outcome.  Only the pointer to a security scheme that cannot be used shows where the scheme stands.
-/
import ApiMethods.Proofs.Accounts

namespace ApiMethods

open ApiMethods.Reference (Pointer.ofKeys Pointer.ofKeys_append)
open Document (Operation)

/-! ## §1. The modern form. -/

/-- The document with its shared definitions where version 3 keeps them. -/
def Document.modern (version : String) (d : Document) : Document :=
  { d with
    openapi := some version
    swagger := none
    components := some {
      schemas := d.definitions
      responses := d.responses
      parameters := d.parameters
      requestBodies := d.namedBodies
      headers := d.namedHeaders
      securitySchemes := d.securityDefinitions }
    definitions := []
    parameters := []
    responses := []
    securityDefinitions := [] }

namespace Document

variable {d : Document} (h : d.isVersion2 = true) (version : String)
include h

/-! What version 2 keeps at the root is found at the root. -/

theorem components3_of_isVersion2 : d.components3 = none := if_pos h

theorem schemas_modern : (d.modern version).schemas = d.schemas := by
  unfold schemas
  rw [components3_of_isVersion2 h]
  rfl

theorem namedParameters_modern : (d.modern version).namedParameters = d.namedParameters := by
  unfold namedParameters
  rw [components3_of_isVersion2 h]
  rfl

theorem namedResponses_modern : (d.modern version).namedResponses = d.namedResponses := by
  unfold namedResponses
  rw [components3_of_isVersion2 h]
  rfl

theorem declaredSchemes_modern : (d.modern version).declaredSchemes = d.declaredSchemes := by
  unfold declaredSchemes
  rw [components3_of_isVersion2 h]
  rfl

/-- **BOTH FORMS FIND THE SAME BEHIND EVERY REFERENCE.** -/
theorem sameDefinitions_modern : SameDefinitions d (d.modern version) where
  schemas := by
    funext target
    unfold schemaAt? namedSchemaAt?
    rw [schemas_modern h]
  parameters := by
    funext target
    unfold parameterAt?
    rw [namedParameters_modern h]
  headers := rfl
  bodies := rfl
  responses := by
    funext target
    unfold responseAt?
    rw [namedResponses_modern h]

/-- Both forms give the same source of models. -/
theorem ofDocument_modern (dir : String) :
    Models.ofDocument (d.modern version) dir = Models.ofDocument d dir := by
  unfold Models.ofDocument Models.entries
  rw [schemas_modern h]

end Document

/-! ## §2. Operations. -/

namespace Document

variable {d : Document} (h : d.isVersion2 = true) (version : String)
include h

/-- Of the catalogs of both forms only the places differ. -/
theorem context_modern (models : Models) (options : Options) :
    Method.Context.of (d.modern version) models options =
      { Method.Context.of d models options with
        catalog := { Auth.Catalog.ofDocument d with home := ["components", "securitySchemes"] } } := by
  unfold Method.Context.of
  rw [catalog_eq, catalog_eq, declaredSchemes_modern h]
  rfl

/-- **Step**: an operation has the same outcome in both forms. -/
theorem outcome_modern (models : Models) (options : Options) :
    (d.modern version).outcome models options = d.outcome models options := by
  funext x
  unfold outcome
  rw [(sameDefinitions_modern h version).resolve_eq x, context_modern h]
  rfl

end Document

/-! ## §3. Issues. -/

/-- Whether an issue is about a declared security scheme. -/
def Issue.isOfScheme : Issue → Bool
  | .schemeIgnored _ _ _ => true
  | _ => false

/-- An issue of a document and an issue of its modern form are the same, except that a security
    scheme is pointed at where it stands. -/
structure Issue.Corresponds (i i' : Issue) : Prop where
  severity : i'.severity = i.severity
  message : i'.message = i.message
  pointer : if i.isOfScheme then ∃ step, i.pointer = "#/securityDefinitions" ++ step ∧
    i'.pointer = "#/components/securitySchemes" ++ step else i' = i

namespace Issue

theorem corresponds_schemeIgnored (name : String) (reason : Auth.Rejection) :
    (schemeIgnored ["securityDefinitions"] name reason).Corresponds
      (schemeIgnored ["components", "securitySchemes"] name reason) :=
  ⟨rfl, rfl, _, Pointer.ofKeys_append ["securityDefinitions"] name,
    Pointer.ofKeys_append ["components", "securitySchemes"] name⟩

theorem corresponds_self {i : Issue} (h : i.isOfScheme = false) : i.Corresponds i :=
  ⟨rfl, rfl, by simp [h]⟩

end Issue

/-- Of an operation no issue is about a declared security scheme. -/
theorem Declared.isOfScheme_eq_false (x : Declared) (w : Except SkipReason Method) {i : Issue}
    (hi : i ∈ x.issues w) : i.isOfScheme = false := by
  cases w with
  | error reason =>
    cases List.mem_singleton.mp hi
    rfl
  | ok m =>
    have hi : i ∈ m.issues := hi
    unfold Method.issues at hi
    rcases List.mem_append.mp hi with hi | hi
    · rcases List.mem_append.mp hi with hi | hi
      · split at hi
        · cases List.mem_singleton.mp hi
          rfl
        · cases hi
      · obtain ⟨name, -, rfl⟩ := List.mem_map.mp hi
        rfl
    · split at hi
      · split at hi
        · cases List.mem_singleton.mp hi
          rfl
        · cases hi
      · cases hi

namespace Document

variable {d : Document} (h : d.isVersion2 = true) (version : String)
include h

/-- The same schemes are ignored in both forms, for the same reasons. -/
theorem catalogIssues_modern :
    List.Forall₂ Issue.Corresponds d.catalogIssues (d.modern version).catalogIssues := by
  have hhome : d.schemesHome = ["securityDefinitions"] := by
    unfold schemesHome
    rw [components3_of_isVersion2 h]
  unfold catalogIssues Compilation.catalogIssues
  rw [catalog_eq, catalog_eq, declaredSchemes_modern h, hhome]
  refine List.forall₂_map_left_iff.mpr (List.forall₂_map_right_iff.mpr ?_)
  exact List.forall₂_same.mpr fun e _ => Issue.corresponds_schemeIgnored e.1 e.2

end Document

/-! ## §4. The run. -/

/-- A compilation of a document and one of its modern form are the same, up to where the issues of
    the security schemes point. -/
structure Compilation.Corresponds (out out' : Compilation) : Prop where
  methods : out'.methods = out.methods
  imports : out'.imports = out.imports
  skipped : out'.skipped = out.skipped
  issues : List.Forall₂ Issue.Corresponds out.issues out'.issues

namespace Document

/-- **Run**: with the same models both forms end alike. -/
theorem endAlike_modern {d : Document} (h : d.isVersion2 = true) (version : String)
    (models : Models) (options : Options) :
    EndAlike Compilation.Corresponds (d.compile models options)
      ((d.modern version).compile models options) := by
  refine endAlike_of_paths rfl fun ps hps => ?_
  rw [outcome_modern h]
  refine ⟨rfl, rfl, rfl, ?_⟩
  refine List.rel_append (catalogIssues_modern h version) (List.forall₂_same.mpr fun i hi => ?_)
  obtain ⟨x, -, hi⟩ := List.mem_flatMap.mp hi
  exact Issue.corresponds_self (x.isOfScheme_eq_false _ hi)

/-- **BOTH VERSIONS COMPILE ALIKE**: a document of version 2 and its modern form yield the same
    methods, leave out the same operations, import the same and report the same, whatever is known
    of their models; only a security scheme is pointed at where it stands.  When one of the forms
    cannot be compiled, the other cannot either, for the same reason. -/
theorem compile_modern (d : Document) (h : d.isVersion2 = true) (version : String)
    (options : Options) :
    (∀ models, EndAlike Compilation.Corresponds (d.compile models options)
      ((d.modern version).compile models options)) ∧
    ∀ dir, EndAlike Compilation.Corresponds (d.compile (.ofDocument d dir) options)
      ((d.modern version).compile (.ofDocument (d.modern version) dir) options) := by
  refine ⟨fun models => endAlike_modern h version models options, fun dir => ?_⟩
  rw [ofDocument_modern h version dir]
  exact endAlike_modern h version _ options

/-- Trees are planted with a key: every kind of definition is referred to, a schema from
    inside itself, and one of two security schemes cannot be used. -/
def orchardDocument : Document where
  swagger := some "2.0"
  paths := some [("/trees", { operations := [
    (.post, {
      operationId := some "plant"
      parameters := [.ref "#/parameters/depth"]
      requestBody := some (.ref "#/components/requestBodies/tree")
      responses := [("200", .ref "#/responses/planted")]
      security := some [[("key", [])]] })] })]
  components := some {
    requestBodies := [("tree", .inline {
      content := [("application/json", { schema := some (.ref "#/definitions/node") })] })]
    headers := [("age", .inline { type := some .integer })] }
  definitions := [("node", .inline {
    type := some (.one .object)
    properties := [("parent", .ref "#/definitions/node")] })]
  parameters := [("depth", .inline { name := "depth", location := .known .query, type := some .integer })]
  responses := [("planted", .inline {
    schema := some (.ref "#/definitions/node")
    headers := [("Age", .ref "#/components/headers/age")] })]
  securityDefinitions := [
    ("card", { type := .mutualTls }),
    ("key", { type := .apiKey, name := some "X-Key", location := some .header })]

/-- The tree is planted in both forms, with the model of its own document, its parameter, its header
    and its key; only the notice of the other scheme points elsewhere. -/
theorem compile_modern_orchardDocument :
    ∃ out out', orchardDocument.compile (.ofDocument orchardDocument "models") {} = .ok out ∧
      (orchardDocument.modern "3.0.3").compile
        (.ofDocument (orchardDocument.modern "3.0.3") "models") {} = .ok out' ∧
      out.methods.map Method.models = [["Node", "Node"]] ∧ out.imports = ["models/node"] ∧
      out.Corresponds out' ∧
      out.issues.map Issue.pointer = ["#/securityDefinitions/card"] ∧
      out'.issues.map Issue.pointer = ["#/components/securitySchemes/card"] := by
  have hversion : orchardDocument.isVersion2 = true := rfl
  have hout := compile_eq_ofOutcomes orchardDocument _ (.ofDocument orchardDocument "models") {} rfl
  have hout' := compile_eq_ofOutcomes (orchardDocument.modern "3.0.3") _
    (.ofDocument (orchardDocument.modern "3.0.3") "models") {} rfl
  have hboth := (compile_modern orchardDocument hversion "3.0.3" {}).2 "models"
  generalize hrun : Compilation.ofOutcomes _ orchardDocument.catalogIssues _ _ = out at hout
  generalize hrun' : Compilation.ofOutcomes _ (orchardDocument.modern "3.0.3").catalogIssues _ _ = out'
    at hout'
  rw [hout, hout'] at hboth
  refine ⟨out, out', hout, hout', ?_, ?_, hboth, ?_, ?_⟩
  · rw [← hrun]
    decide +kernel
  · rw [← hrun]
    decide +kernel
  · rw [← hrun]
    decide +kernel
  · rw [← hrun']
    decide +kernel

end Document

end ApiMethods
