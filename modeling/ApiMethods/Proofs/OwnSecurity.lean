/-
  ApiMethods.Proofs.OwnSecurity
  ─────────────────────────────
  **AN OPERATION WITH REQUIREMENTS OF ITS OWN INHERITS NONE.**

  The requirements of a document hold for the operations that leave the matter to it.  Two
  documents that differ in nothing else are compiled side by side:

      any operation             has the same outcome, up to the authentication of its method,
      one with its own list     has the same outcome, authentication included,
      one with an empty list    sends no credentials at all, not even the generic ones.

  STEP: the requirements enter a compilation at its last stage, the plan for authentication, and
  there they are looked at only when the operation has none.  RUN: what two compilations say of a
  place depends on the outcomes there.
-/
import ApiMethods.Proofs.Outcomes

namespace ApiMethods

open Document (Operation Paths Requirements)

/-! ## §1. Who has requirements. -/

/-- The operation has a list of its own, even an empty one. -/
def Document.Operation.OwnsSecurity (op : Operation) : Prop := op.security.isSome

/-- The operation asks for no authentication. -/
def Document.Operation.OptsOut (op : Operation) : Prop := op.security = some []

/-- What holds for every operation that a document declares at a place. -/
def Document.HoldsAt (d : Document) (place : String × Verb) (P : Operation → Prop) : Prop :=
  ∀ ps, d.paths = some ps → ∀ x ∈ ps.declared, x.place = place → P x.operation

/-- The plan that sends no credentials. -/
def Auth.Plan.empty : Auth.Plan := ⟨[], [], 0⟩

/-- A method without its authentication. -/
def Method.withoutAuth (m : Method) : Method := { m with auth := .empty }

/-! ## §2. Step: one operation. -/

section Step

variable (c : Method.Context) (security : Option Requirements)

/-- An operation with its own list does not look at the requirements around it. -/
theorem Method.authPlan_of_ownsSecurity {op : Operation} (h : op.OwnsSecurity)
    (args : Arguments) : authPlan { c with security := security } op args = authPlan c op args := by
  obtain ⟨own, hown⟩ := Option.isSome_iff_exists.mp h
  have heffective : ∀ outer, Auth.effective outer op.security = own := by
    intro outer
    rw [hown]
    rfl
  unfold authPlan
  simp only [heffective]

/-- **AN OPERATION THAT OPTS OUT SENDS NO CREDENTIALS**, the generic ones included. -/
theorem Method.authPlan_of_optsOut {op : Operation} (h : op.OptsOut) (args : Arguments) :
    authPlan c op args = .empty := by
  have heffective : Auth.effective c.security op.security = [] := by
    rw [h]
    rfl
  -- generic credentials are for operations without a list, and an empty list is one
  have hgeneric : (c.options.legacyFallback && op.security.isNone) = false := by
    rw [h]
    exact Bool.and_false _
  unfold authPlan
  rw [heffective, hgeneric]
  rfl

namespace Declared

/-- **Step**: with other requirements an operation has the same outcome, up to authentication. -/
theorem map_withoutAuth_compile (x : Declared) :
    (x.compile { c with security := security }).map Method.withoutAuth
      = (x.compile c).map Method.withoutAuth := by
  unfold compile Method.compile
  -- no stage before the last looks at the requirements
  refine map_bind_congr fun id => ?_
  refine map_bind_congr fun merged => ?_
  refine map_bind_congr fun args => ?_
  refine map_bind_congr fun template => ?_
  refine map_bind_congr fun declared => ?_
  refine map_bind_congr fun body => ?_
  refine map_bind_congr fun reply => ?_
  rfl

/-- **Step**: an operation with its own list has the same outcome. -/
theorem compile_of_ownsSecurity {x : Declared} (h : x.operation.OwnsSecurity) :
    x.compile { c with security := security } = x.compile c := by
  unfold compile Method.compile
  simp only [Method.authPlan_of_ownsSecurity c security h]

end Declared

end Step

/-! ## §3. Run: all operations. -/

namespace Document

section Run

variable (d : Document) (security : Option Requirements) (models : Models) (options : Options)

/-- The requirements of a document are not among its definitions. -/
theorem sameDefinitions_withSecurity : SameDefinitions d { d with security := security } :=
  ⟨rfl, rfl, rfl, rfl, rfl⟩

/-- Of the requirements of a document an operation sees what its context holds. -/
theorem outcome_withSecurity (x : Declared) :
    outcome { d with security := security } models options x
      = (x.resolve d).compile { Method.Context.of d models options with security := security } := by
  have hresolve : x.resolve { d with security := security } = x.resolve d :=
    (d.sameDefinitions_withSecurity security).resolve_eq x
  unfold outcome
  rw [hresolve]
  rfl

/-- With other requirements an operation has the same outcome, up to authentication. -/
theorem map_withoutAuth_outcome (x : Declared) :
    (outcome { d with security := security } models options x).map Method.withoutAuth
      = (d.outcome models options x).map Method.withoutAuth := by
  rw [outcome_withSecurity]
  exact (x.resolve d).map_withoutAuth_compile (.of d models options) security

/-- With other requirements an operation with its own list has the same outcome. -/
theorem outcome_of_ownsSecurity {x : Declared} (h : x.operation.OwnsSecurity) :
    outcome { d with security := security } models options x = d.outcome models options x := by
  -- resolving an operation leaves its list as it is
  have hresolved : (x.resolve d).operation.OwnsSecurity := h
  rw [outcome_withSecurity]
  exact Declared.compile_of_ownsSecurity (.of d models options) security hresolved

/-- The method of an operation that opts out sends no credentials. -/
theorem auth_of_optsOut {x : Declared} {m : Method} (h : x.operation.OptsOut)
    (hm : d.outcome models options x = .ok m) : m.auth = .empty := by
  obtain ⟨-, -, -, hauth, -⟩ := Declared.stages_of_compile hm
  have hresolved : (x.resolve d).operation.OptsOut := h
  rw [hauth]
  exact Method.authPlan_of_optsOut _ hresolved _

/-- **NOBODY WITH A LIST OF ITS OWN INHERITS.**  When only the requirements of a document change,
it still fails for the same reason, or the same operations are left out, the methods agree position
by position in everything but their authentication, and at a place where an operation has its own
list the methods and all that is reported are the same.  Where it opts out, no credentials are
sent. -/
theorem compile_withSecurity :
    EndAlike
      (fun out out' =>
        out.skipped = out'.skipped ∧
        out.methods.map Method.withoutAuth = out'.methods.map Method.withoutAuth ∧
        (∀ place, d.HoldsAt place Operation.OwnsSecurity →
          out.methods.filter (·.place = place) = out'.methods.filter (·.place = place) ∧
          out.issues.filter (Issue.isUnder place) = out'.issues.filter (Issue.isUnder place)) ∧
        (∀ place, d.HoldsAt place Operation.OptsOut →
          ∀ m ∈ out.methods, m.place = place → m.auth = .empty))
      (d.compile models options) (compile { d with security := security } models options) := by
  refine endAlike_of_paths rfl fun ps hps => ?_
  let d' : Document := { d with security := security }
  have hforget : ∀ x ∈ ps.declared, (d.outcome models options x).map Method.withoutAuth
      = (d'.outcome models options x).map Method.withoutAuth :=
    fun x _ => (d.map_withoutAuth_outcome security models options x).symm
  have hplace : ∀ (e : Document) (x : Declared) (m : Method),
      e.outcome models options x = .ok m → m.place = x.place := fun e x m => place_of_outcome
  refine ⟨?_, ?_, ?_, ?_⟩
  · exact Compilation.skipped_ofOutcomes hforget _ _ _ _
  · exact Compilation.map_methods_ofOutcomes hforget _ _ _ _
  · intro place howns
    have hequal : ∀ x ∈ ps.declared, x.place = place →
        d.outcome models options x = d'.outcome models options x :=
      fun x hx hxplace =>
        (d.outcome_of_ownsSecurity security models options (howns ps hps x hx hxplace)).symm
    constructor
    · exact Compilation.filter_methods_ofOutcomes (fun x _ => hplace d x) (fun x _ => hplace d' x)
        hequal _ _ _ _
    · exact Compilation.filter_issues_ofOutcomes (fun x _ => hplace d x) (fun x _ => hplace d' x)
        hequal _ _ _
  · intro place hout m hm hmplace
    obtain ⟨x, hx, hok⟩ := Compilation.mem_methods_ofOutcomes.mp hm
    have hxplace : x.place = place := (hplace d x m hok).symm.trans hmplace
    exact d.auth_of_optsOut models options (hout ps hps x hx hxplace) hok

end Run

/-- Anybody may look, buying takes a key, and stocking is left to the document. -/
def shopPaths : Paths :=
  [("/shop", { operations := [
    (.get, { operationId := some "look", security := some [] }),
    (.post, { operationId := some "buy", security := some [[("key", [])]] }),
    (.put, { operationId := some "stock" })] })]

/-- A document of these paths that knows the key and asks for nothing. -/
def shopDocument : Document where
  swagger := some "2.0"
  paths := some shopPaths
  securityDefinitions := [("key",
    { type := .apiKey, name := some "X-Key", location := some .header })]

/-- The three operations of this document, without requirements around them and within a key. -/
theorem compile_withSecurity_shopDocument :
    shopDocument.HoldsAt ("/shop", .get) Operation.OptsOut ∧
    shopDocument.HoldsAt ("/shop", .post) Operation.OwnsSecurity ∧
    ∃ out out', shopDocument.compile .none {} = .ok out ∧
      compile { shopDocument with security := some [[("key", [])]] } .none {} = .ok out' ∧
      out.methods.map (·.auth.instructions) =
        [[], [.headerKey "key" "X-Key"], [.fallback "X-API-Key"]] ∧
      out'.methods.map (·.auth.instructions) =
        [[], [.headerKey "key" "X-Key"], [.headerKey "key" "X-Key"]] ∧
      out.methods.map Method.withoutAuth = out'.methods.map Method.withoutAuth ∧
      out.methods.filter (·.place = ("/shop", .post))
        = out'.methods.filter (·.place = ("/shop", .post)) := by
  have hopts : shopDocument.HoldsAt ("/shop", .get) Operation.OptsOut := by
    intro ps hps
    cases hps
    unfold Operation.OptsOut
    decide
  have howns : shopDocument.HoldsAt ("/shop", .post) Operation.OwnsSecurity := by
    intro ps hps
    cases hps
    unfold Operation.OwnsSecurity
    decide
  have hrun := compile_withSecurity shopDocument (some [[("key", [])]]) .none {}
  have hout := compile_eq_ofOutcomes shopDocument shopPaths .none {} rfl
  have hout' := compile_eq_ofOutcomes { shopDocument with security := some [[("key", [])]] }
    shopPaths .none {} rfl
  rw [hout, hout'] at hrun
  obtain ⟨-, hmethods, hplace, -⟩ := hrun
  exact ⟨hopts, howns, _, _, hout, hout', by decide +kernel, by decide +kernel, hmethods,
    (hplace _ howns).1⟩

end Document

end ApiMethods
