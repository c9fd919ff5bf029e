/-
  ApiMethods.Proofs.Walk
  ──────────────────────
  **THE LOOP OVER ALL OPERATIONS IS A CONCATENATION.**

  Compiling a document walks over its declared operations, path by path, and adds what
  becomes of each to one growing compilation.  STEP: adding an operation puts its own
  contribution behind what is there.  RUN: by induction over the walk, the lists of the
  result are the concatenations of the contributions, and the imports are their union in the
  order of first occurrence.

  `compile_eq_join` states this of a document as it is declared; the references of every
  operation are replaced on their own (`Proofs.Resolution`).
-/
import Mathlib.Data.List.Induction
import ApiMethods.Method.Compile
import ApiMethods.Proofs.Resolution

namespace ApiMethods

open ApiMethods.Source (OrRef)
open Document (Operation PathItem Paths Parameter)

/-! ## §1. The walk. -/

/-- A declared operation: where it stands, the parameters that it shares, and what it declares. -/
structure Declared where
  path : String
  shared : List (OrRef Parameter)
  verb : Verb
  operation : Operation

namespace Declared

/-- The method of a declared operation, or the reason to leave it out. -/
def compile (c : Method.Context) (x : Declared) : Except SkipReason Method :=
  Method.compile c x.path { parameters := x.shared } x.verb x.operation

/-- The operation with its references replaced. -/
def resolve (d : Document) (x : Declared) : Declared :=
  ⟨x.path, x.shared.map d.resolveParameter, x.verb, d.resolveOperation x.operation⟩

end Declared

/-- Documents with the same definitions resolve declared operations alike. -/
theorem Document.SameDefinitions.resolve_eq {d d' : Document} (h : SameDefinitions d d')
    (x : Declared) : x.resolve d' = x.resolve d := by
  unfold Declared.resolve
  rw [h.resolveParameter_eq, h.resolveOperation_eq]

/-- The operations under some paths, in the order of declaration. -/
def Document.Paths.declared (ps : Paths) : List Declared :=
  ps.flatMap fun e => e.2.operations.map fun o => ⟨e.1, e.2.parameters, o.1, o.2⟩

/-- Resolving a document resolves its operations where they stand. -/
theorem declared_resolve (d : Document) (ps : Paths) :
    Paths.declared (Table.mapValues d.resolveItem ps) = ps.declared.map (Declared.resolve d) := by
  induction ps with
  | nil => rfl
  | cons e rest ih =>
    show (Table.mapValues d.resolveOperation e.2.operations).map _ ++
        Paths.declared (Table.mapValues d.resolveItem rest) = _
    rw [ih]
    simp [Document.Paths.declared, Table.mapValues, Declared.resolve, Document.resolveItem]

/-! ## §2. Imports, once each. -/

/-- Behind other things, one more is kept unless it is there already. -/
theorem eraseDups_append_singleton {α : Type} [BEq α] [LawfulBEq α] (l : List α) (x : α) :
    (l ++ [x]).eraseDups = if x ∈ l then l.eraseDups else l.eraseDups ++ [x] := by
  rw [List.eraseDups_append]
  by_cases hx : x ∈ l
  · simp [List.removeAll, hx]
  · simp [List.removeAll, List.eraseDups_cons, hx]

namespace Compilation

theorem mem_foldl_addImport (file : String) (l acc : List String) :
    file ∈ l.foldl addImport acc ↔ file ∈ acc ∨ file ∈ l := by
  induction l generalizing acc with
  | nil => simp
  | cons x rest ih =>
    rw [List.foldl_cons, ih]
    unfold addImport
    split
    · rename_i hx
      constructor
      · rintro (h | h)
        · exact .inl h
        · exact .inr (List.mem_cons_of_mem x h)
      · rintro (h | h)
        · exact .inl h
        · rcases List.mem_cons.mp h with rfl | h
          · exact .inl hx
          · exact .inr h
    · simp only [List.mem_append, List.mem_cons, List.not_mem_nil, or_false, or_assoc]

/-- Adding imports one by one keeps the first occurrence of each. -/
theorem foldl_addImport_nil (l : List String) : l.foldl addImport [] = l.eraseDups := by
  induction l using List.reverseRecOn with
  | nil => rfl
  | append_singleton l x ih =>
    rw [List.foldl_append, ih, eraseDups_append_singleton]
    by_cases hx : x ∈ l <;> simp [addImport, List.mem_eraseDups, hx]

/-- Repetitions inside what is added do not matter. -/
theorem foldl_addImport_eraseDups (l acc : List String) :
    l.eraseDups.foldl addImport acc = l.foldl addImport acc := by
  rw [← foldl_addImport_nil]
  induction l using List.reverseRecOn with
  | nil => rfl
  | append_singleton l x ih =>
    rw [List.foldl_append, List.foldl_append, ← ih]
    show (addImport (l.foldl addImport []) x).foldl addImport acc = addImport _ x
    -- `x` is left out of the first list only when the rest of it brings `x` already
    by_cases hx : x ∈ l.foldl addImport []
    · have hmem : x ∈ (l.foldl addImport []).foldl addImport acc :=
        (mem_foldl_addImport x _ acc).mpr (.inr hx)
      rw [show addImport (l.foldl addImport []) x = l.foldl addImport [] from if_pos hx]
      exact (if_pos hmem).symm
    · rw [show addImport (l.foldl addImport []) x = l.foldl addImport [] ++ [x] from if_neg hx,
        List.foldl_append]
      rfl

/-- Repetitions inside the parts do not matter for the union. -/
theorem eraseDups_flatMap_eraseDups {α : Type} (f : α → List String) (l : List α) :
    (l.flatMap fun a => (f a).eraseDups).eraseDups = (l.flatMap f).eraseDups := by
  rw [← foldl_addImport_nil, ← foldl_addImport_nil]
  -- the claim for any imports to begin with, since each part is added behind the ones before it
  suffices h : ∀ acc, (l.flatMap fun a => (f a).eraseDups).foldl addImport acc
      = (l.flatMap f).foldl addImport acc from h []
  induction l with
  | nil => exact fun _ => rfl
  | cons a rest ih =>
    intro acc
    rw [List.flatMap_cons, List.flatMap_cons, List.foldl_append, List.foldl_append,
      foldl_addImport_eraseDups, ih]

/-! ## §3. Step: what one operation contributes. -/

/-- A compilation of nothing. -/
def empty : Compilation := ⟨[], [], [], []⟩

/-- One compilation behind another; an import stays where it came first. -/
def append (a b : Compilation) : Compilation where
  methods := a.methods ++ b.methods
  imports := b.imports.foldl addImport a.imports
  skipped := a.skipped ++ b.skipped
  issues := a.issues ++ b.issues

/-- What a declared operation contributes. -/
def ofDeclared (c : Method.Context) (x : Declared) : Compilation :=
  match x.compile c with
  | .ok m => empty.addMethod c.models m
  | .error reason => empty.addSkipped ⟨x.verb, x.path, reason⟩

/-- **Step**: adding an operation puts its contribution behind what is there. -/
theorem addOperation_eq (c : Method.Context) (path : String) (item : PathItem)
    (out : Compilation) (e : Verb × Operation) :
    addOperation c path item out e
      = out.append (ofDeclared c ⟨path, item.parameters, e.1, e.2⟩) := by
  unfold addOperation ofDeclared
  -- of the path item only its parameters are looked at
  show (match Declared.compile c ⟨path, item.parameters, e.1, e.2⟩ with
    | .ok m => _ | .error reason => _) = _
  cases Declared.compile c ⟨path, item.parameters, e.1, e.2⟩ with
  | ok m =>
    simp only [addMethod, append, empty, List.nil_append, List.append_nil]
    rw [foldl_addImport_nil, foldl_addImport_eraseDups]
  | error reason =>
    simp only [addSkipped, append, empty, List.nil_append, List.append_nil, List.foldl_nil]

theorem mem_methods_ofDeclared {c : Method.Context} {x : Declared} {m : Method} :
    m ∈ (ofDeclared c x).methods ↔ x.compile c = .ok m := by
  unfold ofDeclared
  cases x.compile c <;> simp [addMethod, addSkipped, empty, eq_comm]

/-! ## §4. Run: the contributions one behind the other. -/

/-- Compilations one behind the other, behind some issues. -/
def join (issues : List Issue) (parts : List Compilation) : Compilation where
  methods := parts.flatMap (·.methods)
  imports := (parts.flatMap (·.imports)).eraseDups
  skipped := parts.flatMap (·.skipped)
  issues := issues ++ parts.flatMap (·.issues)

theorem foldl_addItem (c : Method.Context) (ps : Paths) (out : Compilation) :
    ps.foldl (addItem c) out = (ps.declared.map (ofDeclared c)).foldl append out := by
  induction ps generalizing out with
  | nil => rfl
  | cons e rest ih =>
    rw [List.foldl_cons, ih]
    have hitem : addItem c out e = ((e.2.operations.map fun o =>
        ofDeclared c ⟨e.1, e.2.parameters, o.1, o.2⟩).foldl append out) := by
      unfold addItem
      rw [List.foldl_map]
      congr 1
      funext out o
      exact addOperation_eq c e.1 e.2 out o
    rw [hitem, ← List.foldl_append]
    simp [Document.Paths.declared, Function.comp_def]

theorem foldl_append_eq (parts : List Compilation) (out : Compilation) :
    parts.foldl append out =
      { methods := out.methods ++ parts.flatMap (·.methods)
        imports := (parts.flatMap (·.imports)).foldl addImport out.imports
        skipped := out.skipped ++ parts.flatMap (·.skipped)
        issues := out.issues ++ parts.flatMap (·.issues) } := by
  induction parts generalizing out with
  | nil => simp
  | cons p rest ih =>
    rw [List.foldl_cons, ih]
    simp [append]

/-- **Run**: the walk yields the contributions one behind the other. -/
theorem foldl_addItem_start (c : Method.Context) (ps : Paths) :
    ps.foldl (addItem c) (start c.catalog)
      = join (catalogIssues c.catalog) (ps.declared.map (ofDeclared c)) := by
  rw [foldl_addItem, foldl_append_eq]
  simp only [start, join, List.nil_append, foldl_addImport_nil]

end Compilation

/-! ## §5. Documents. -/

namespace Document

/-- The issues of the security schemes of a document. -/
def catalogIssues (d : Document) : List Issue := Compilation.catalogIssues (.ofDocument d)

/-- **A COMPILATION IS THE CONCATENATION OF ITS OPERATIONS**, each of them with its references
replaced, behind the issues of the catalog. -/
theorem compile_eq_join (d : Document) (ps : Paths) (models : Models) (options : Options)
    (h : d.paths = some ps) :
    d.compile models options = .ok (Compilation.join d.catalogIssues
      (ps.declared.map fun x =>
        Compilation.ofDeclared (.of d models options) (x.resolve d))) := by
  unfold compile
  rw [resolve_eq, h]
  show Except.ok (List.foldl _ _ (Table.mapValues d.resolveItem ps)) = _
  -- the context of an operation holds nothing that resolving changes
  show Except.ok ((Table.mapValues d.resolveItem ps).foldl
    (Compilation.addItem (.of d models options)) (.start (.ofDocument d))) = _
  rw [show Auth.Catalog.ofDocument d = (Method.Context.of d models options).catalog from rfl,
    Compilation.foldl_addItem_start, declared_resolve, List.map_map]
  rfl

/-- The methods of a document come from its operations, one from each that compiles. -/
theorem mem_methods_of_compile {d : Document} {models : Models} {options : Options}
    {out : Compilation} (h : d.compile models options = .ok out) (m : Method) :
    m ∈ out.methods ↔ ∃ ps, d.paths = some ps ∧
      ∃ x ∈ ps.declared, (x.resolve d).compile (.of d models options) = .ok m := by
  cases hps : d.paths with
  | none =>
    have herror : d.compile models options = .error .missingPaths := by
      unfold compile
      rw [resolve_eq, hps]
      rfl
    rw [herror] at h
    cases h
  | some ps =>
    rw [compile_eq_join d ps models options hps] at h
    cases h
    simp only [Compilation.join, List.mem_flatMap, List.mem_map, Option.some.injEq,
      exists_eq_left']
    constructor
    · rintro ⟨-, ⟨x, hx, rfl⟩, hm⟩
      exact ⟨x, hx, Compilation.mem_methods_ofDeclared.mp hm⟩
    · rintro ⟨x, hx, hm⟩
      exact ⟨_, ⟨x, hx, rfl⟩, Compilation.mem_methods_ofDeclared.mpr hm⟩

end Document

end ApiMethods
