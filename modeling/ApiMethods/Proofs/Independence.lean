/-
  ApiMethods.Proofs.Independence
  ──────────────────────────────
  **OPERATIONS ARE COMPILED INDEPENDENTLY OF EACH OTHER.**

  A document is cut down to each of its operations in turn, and every piece is compiled as a
  document of its own.  The pieces together tell everything about the whole:

      compile d  =  combine (issues of the catalog) [compile (d cut down to x) | x declared]

  Nothing passes from one operation to the next, neither through the references in progress
  nor through the lists that grow.  A change to some operations is therefore not seen by the
  others, whatever becomes of the changed ones.
-/
import ApiMethods.Proofs.Walk

namespace ApiMethods

open ApiMethods.Source (OrRef)
open Document (Operation PathItem Paths Parameter Schema)

/-! ## §1. Documents that differ in their paths. -/

namespace Document

variable (d : Document) (ps : Option Paths)

/-- What an operation becomes does not depend on the paths of the document. -/
theorem resolve_withPaths (x : Declared) :
    x.resolve { d with paths := ps } = x.resolve d := by
  have hsame : SameDefinitions d { d with paths := ps } := ⟨rfl, rfl, rfl, rfl, rfl⟩
  exact hsame.resolve_eq x

/-! ## §2. One operation alone. -/

/-- The document cut down to one operation and the parameters that it shares. -/
def only (d : Document) (x : Declared) : Document :=
  { d with paths := some [(x.path, { parameters := x.shared, operations := [(x.verb, x.operation)] })] }

/-- The compilation of one operation alone. -/
def alone (d : Document) (models : Models) (options : Options) (x : Declared) : Compilation :=
  ((d.only x).compile models options).toOption.getD .empty

variable (models : Models) (options : Options)

theorem compile_only (x : Declared) :
    (d.only x).compile models options = .ok (Compilation.join d.catalogIssues
      [Compilation.ofDeclared (.of d models options) (x.resolve d)]) := by
  rw [compile_eq_join (d.only x) _ models options rfl, show (d.only x).catalogIssues =
    d.catalogIssues from rfl, show Method.Context.of (d.only x) models options =
    Method.Context.of d models options from rfl]
  show Except.ok (Compilation.join _ [Compilation.ofDeclared _ (x.resolve (d.only x))]) = _
  rw [show x.resolve (d.only x) = x.resolve d from resolve_withPaths d _ x]

theorem alone_eq (x : Declared) :
    d.alone models options x = Compilation.join d.catalogIssues
      [Compilation.ofDeclared (.of d models options) (x.resolve d)] := by
  unfold alone
  rw [compile_only]
  rfl

theorem methods_alone (x : Declared) :
    (d.alone models options x).methods
      = (Compilation.ofDeclared (.of d models options) (x.resolve d)).methods := by
  rw [alone_eq]
  exact List.flatMap_singleton _ _

theorem skipped_alone (x : Declared) :
    (d.alone models options x).skipped
      = (Compilation.ofDeclared (.of d models options) (x.resolve d)).skipped := by
  rw [alone_eq]
  exact List.flatMap_singleton _ _

end Document

/-! ## §3. The whole from its operations. -/

namespace Compilation

/-- Compilations that all begin with the same issues, put together: these issues once, and then
what each of them has besides. -/
def combine (issues : List Issue) (runs : List Compilation) : Compilation :=
  join issues (runs.map fun r => { r with issues := r.issues.drop issues.length })

/-- Parts that were joined one by one to the same issues combine to the join of them all. -/
theorem combine_join (issues : List Issue) (parts : List Compilation) :
    combine issues (parts.map fun p => join issues [p]) = join issues parts := by
  unfold combine join
  simp only [List.map_map, List.flatMap_map, List.flatMap_singleton, Function.comp_def,
    List.drop_left, eraseDups_flatMap_eraseDups]

end Compilation

namespace Document

/-- **OPERATIONS ARE INDEPENDENT**.  Every operation compiles alone, to a result that begins with
the issues of the catalog; the whole is these results put together; and when the operations in
one stretch of the walk are replaced by any others, the ones before and after it keep their
methods and their reasons. -/
theorem compile_eq_combine_alone (d : Document) (ps : Paths) (models : Models)
    (options : Options) (h : d.paths = some ps) :
    (∀ x : Declared, (d.only x).compile models options = .ok (d.alone models options x)
      ∧ d.catalogIssues <+: (d.alone models options x).issues)
    ∧ d.compile models options
      = .ok (.combine d.catalogIssues (ps.declared.map (d.alone models options)))
    ∧ ∀ (ps' : Paths) (before own own' after : List Declared),
      ps.declared = before ++ own ++ after → ps'.declared = before ++ own' ++ after →
      ∃ c c', d.compile models options = .ok c
        ∧ ({ d with paths := some ps' } : Document).compile models options = .ok c'
        ∧ c.methods = before.flatMap (fun x => (d.alone models options x).methods)
          ++ own.flatMap (fun x => (d.alone models options x).methods)
          ++ after.flatMap (fun x => (d.alone models options x).methods)
        ∧ c'.methods = before.flatMap (fun x => (d.alone models options x).methods)
          ++ own'.flatMap (fun x => (d.alone models options x).methods)
          ++ after.flatMap (fun x => (d.alone models options x).methods)
        ∧ c.skipped = before.flatMap (fun x => (d.alone models options x).skipped)
          ++ own.flatMap (fun x => (d.alone models options x).skipped)
          ++ after.flatMap (fun x => (d.alone models options x).skipped)
        ∧ c'.skipped = before.flatMap (fun x => (d.alone models options x).skipped)
          ++ own'.flatMap (fun x => (d.alone models options x).skipped)
          ++ after.flatMap (fun x => (d.alone models options x).skipped) := by
  refine ⟨fun x => ⟨?_, ?_⟩, ?_, ?_⟩
  · rw [compile_only, alone_eq]
  · rw [alone_eq]
    exact List.prefix_append _ _
  · rw [compile_eq_join d ps models options h, ← Compilation.combine_join, List.map_map]
    congr 3
    funext x
    exact (alone_eq d models options x).symm
  · intro ps' before own own' after hps hps'
    have hc : Method.Context.of { d with paths := some ps' } models options
        = Method.Context.of d models options := rfl
    refine ⟨_, _, compile_eq_join d ps models options h,
      compile_eq_join { d with paths := some ps' } ps' models options rfl, ?_, ?_, ?_, ?_⟩
    all_goals
      simp only [Compilation.join, hps, hps', hc, List.flatMap_map, List.flatMap_append,
        resolve_withPaths, methods_alone, skipped_alone]

/-- A tree whose nodes hold nodes, read under two paths; one operation has no id. -/
def treePaths : Paths :=
  let filter : OrRef Parameter := .inline
    { name := "filter", location := .known .query, schema := some (.ref "#/definitions/Node") }
  [("/nodes", { parameters := [filter], operations := [
      (.get, { operationId := some "listNodes" }),
      (.post, {})] }),
    ("/roots", { parameters := [filter], operations := [
      (.get, { operationId := some "listRoots" })] })]

/-- The document of these paths. -/
def treeDocument : Document where
  swagger := some "2.0"
  paths := some treePaths
  definitions := [("Node", .inline { properties := [("child", .ref "#/definitions/Node")] })]

/-- The three operations of the tree compile as they do alone, and without the one that has no id
the other two stay as they are. -/
theorem compile_treeDocument_combines :
    treeDocument.paths = some treePaths
    ∧ treeDocument.compile .none {} = .ok (.combine treeDocument.catalogIssues
        (treePaths.declared.map (treeDocument.alone .none {})))
    ∧ ∃ (nodes broken roots : Declared) (ps' : Paths),
      treePaths.declared = [nodes, broken, roots] ∧ ps'.declared = [nodes, roots]
      ∧ ∃ c c', treeDocument.compile .none {} = .ok c
        ∧ ({ treeDocument with paths := some ps' } : Document).compile .none {} = .ok c'
        ∧ c.methods = (treeDocument.alone .none {} nodes).methods
          ++ (treeDocument.alone .none {} broken).methods
          ++ (treeDocument.alone .none {} roots).methods
        ∧ c'.methods = (treeDocument.alone .none {} nodes).methods
          ++ (treeDocument.alone .none {} roots).methods := by
  obtain ⟨-, hwhole, hchange⟩ := compile_eq_combine_alone treeDocument treePaths .none {} rfl
  let ps' : Paths := treePaths.map fun e =>
    (e.1, { e.2 with operations := e.2.operations.filter fun o => o.1 = .get })
  obtain ⟨c, c', hc, hc', hm, hm', -, -⟩ :=
    hchange ps' (treePaths.declared.take 1) ((treePaths.declared.drop 1).take 1) []
      (treePaths.declared.drop 2) rfl rfl
  refine ⟨rfl, hwhole, _, _, _, ps', rfl, rfl, c, c', hc, hc', ?_, ?_⟩
  · rw [hm]
    simp [treePaths, Paths.declared]
  · rw [hm']
    simp [treePaths, Paths.declared]

end Document

end ApiMethods
