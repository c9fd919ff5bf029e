/-
  ApiMethods.Proofs.IssuePointers
  ───────────────────────────────
  **WHAT STANDS WHERE AN ISSUE POINTS.**

  An issue comes with a pointer into the document.  Following the pointer through the document as
  it is written leads to what the issue is about:

      a scheme that is ignored          the scheme,
      an operation that is left out     the operation,
      alternatives, unknown schemes     the requirements that the operation declares,
      an approximated body              the request body that the operation declares.

  The last two need not be there.  An operation without requirements takes those of the document,
  and its body may come from a parameter; what is reported of them is reported under the operation
  all the same, where there is nothing (`exists_compile_pointers`).
-/
import ApiMethods.Proofs.DistinctKeys
import ApiMethods.Proofs.SkipRules

namespace ApiMethods

open ApiMethods.Reference (Pointer.decode? Pointer.decode?_ofKeys)
open ApiMethods.Source (OrRef)
open Document (Operation PathItem Paths RequestBody Requirements SecurityScheme tableField)

/-! ## §1. Following a pointer. -/

namespace Json

/-- What stands under a step: the value of a key, or the item at a place of a list. -/
def child? : Json → String → Option Json
  | .object entries, key => (Json.object entries).get? key
  | .list items, key => (items.zipIdx.find? fun e => toString e.2 = key).map (·.1)
  | _, _ => none

/-- What stands at the end of some steps. -/
def at? (v : Json) : List String → Option Json
  | [] => some v
  | key :: keys => (v.child? key).bind fun w => w.at? keys

/-- What a pointer locates. -/
def locate? (v : Json) (pointer : String) : Option Json := (Pointer.decode? pointer).bind v.at?

theorem locate?_ofKeys (v : Json) (keys : List String) :
    v.locate? (Reference.Pointer.ofKeys keys) = v.at? keys := by
  unfold locate?
  rw [Pointer.decode?_ofKeys]
  rfl

theorem at?_singleton (v : Json) (key : String) : v.at? [key] = v.child? key := by
  show (v.child? key).bind some = v.child? key
  cases v.child? key <;> rfl

theorem at?_append (v : Json) (keys keys' : List String) :
    v.at? (keys ++ keys') = (v.at? keys).bind fun w => w.at? keys' := by
  induction keys generalizing v with
  | nil => rfl
  | cons key rest ih =>
    show (v.child? key).bind _ = ((v.child? key).bind _).bind _
    rw [Option.bind_assoc]
    exact Option.bind_congr fun w _ => ih w

/-! ## §2. What is written under a key. -/

theorem lookup_cons (key name : String) (v : Json) (rest : List (String × Json)) :
    ((name, v) :: rest).lookup key = if key = name then some v else rest.lookup key := by
  by_cases h : key = name
  · subst h
    simp
  · rw [if_neg h, List.lookup_cons, beq_false_of_ne h]

@[simp] theorem lookup_field (key name : String) (v : Json) :
    (field name v).lookup key = if key = name then some v else none :=
  lookup_cons key name v []

@[simp] theorem lookup_optional {α : Type} (key name : String) (f : α → Json) (o : Option α) :
    (optional name f o).lookup key = if key = name then o.map f else none := by
  cases o with
  | none => exact (ite_self none).symm
  | some a => exact lookup_cons key name (f a) []

@[simp] theorem lookup_unlessEmpty {α : Type} (key name : String) (f : List α → Json) (l : List α) :
    (unlessEmpty name f l).lookup key =
      if key = name then if l = [] then none else some (f l) else none := by
  cases l with
  | nil => exact (ite_self none).symm
  | cons a rest => exact lookup_cons key name (f (a :: rest)) []

/-- The entries of a table are found under their keys. -/
theorem lookup_map {κ α : Type} [DecidableEq κ] {spell : κ → String}
    (hspell : Function.Injective spell) (f : α → Json) (t : Table κ α) (k : κ) :
    (t.map fun e => (spell e.1, f e.2)).lookup (spell k) = (t.get? k).map f := by
  induction t with
  | nil => rfl
  | cons e rest ih =>
    obtain ⟨k', a⟩ := e
    rw [List.map_cons, lookup_cons, ih, Table.get?]
    by_cases h : k' = k
    · subst h
      simp
    · have hne : spell k ≠ spell k' := fun heq => h (hspell heq).symm
      rw [if_neg h, if_neg hne]

theorem child?_table {α : Type} (f : α → Json) (t : Table String α) (key : String) :
    (Json.object (Table.mapValues f t)).child? key = (t.get? key).map f :=
  lookup_map Function.injective_id f t key

end Json

/-! ## §3. The parts of a written document. -/

namespace Document

theorem child?_paths (d : Document) : d.toJson.child? "paths" = d.paths.map Paths.toJson := by
  show List.lookup _ _ = _
  simp [List.lookup_append, tableField]

theorem child?_operation (item : PathItem) (verb : Verb) :
    item.toJson.child? verb.key = (item.operations.get? verb).map Operation.toJson := by
  have hoperations : (item.operations.map fun e => (e.1.key, e.2.toJson)).lookup verb.key
      = (item.operations.get? verb).map Operation.toJson :=
    Json.lookup_map (fun _ _ => Verb.key_injective) Operation.toJson item.operations verb
  have hother : verb.key ≠ "summary" ∧ verb.key ≠ "description" ∧ verb.key ≠ "parameters" := by
    cases verb <;> decide
  show List.lookup _ _ = _
  rw [List.lookup_append]
  simpa [List.lookup_append, hother] using hoperations

theorem child?_security (op : Operation) :
    op.toJson.child? "security" = op.security.map Requirements.toJson := by
  show List.lookup _ _ = _
  simp [List.lookup_append]

theorem child?_requestBody (op : Operation) :
    op.toJson.child? "requestBody" = op.requestBody.map (OrRef.toJson RequestBody.toJson) := by
  show List.lookup _ _ = _
  simp [List.lookup_append]

/-- The declared schemes stand where a pointer to one of them leads. -/
theorem at?_schemesHome {d : Document} (h : d.declaredSchemes ≠ []) :
    d.toJson.at? d.schemesHome
      = some (.object (Table.mapValues SecurityScheme.toJson d.declaredSchemes)) := by
  unfold schemesHome declaredSchemes at *
  cases hc : d.components3 with
  | none =>
    simp only [hc] at h ⊢
    have hchild : d.toJson.child? "securityDefinitions"
        = some (.object (Table.mapValues SecurityScheme.toJson d.securityDefinitions)) := by
      show List.lookup _ _ = _
      simp [List.lookup_append, tableField, h]
    simp [Json.at?, hchild]
  | some c =>
    simp only [hc] at h ⊢
    have hcomponents : d.components = some c := by
      unfold components3 at hc
      split at hc
      · cases hc
      · exact hc
    have hchild : d.toJson.child? "components" = some c.toJson := by
      show List.lookup _ _ = _
      simp [List.lookup_append, tableField, hcomponents]
    have hschemes : c.toJson.child? "securitySchemes"
        = some (.object (Table.mapValues SecurityScheme.toJson c.securitySchemes)) := by
      show List.lookup _ _ = _
      simp [List.lookup_append, tableField, h]
    simp [Json.at?, hchild, hschemes]

/-- **A DECLARED SCHEME STANDS WHERE ITS POINTER LEADS.** -/
theorem at?_scheme {d : Document} (h : d.declaredSchemes.Distinct)
    {e : String × SecurityScheme} (he : e ∈ d.declaredSchemes) :
    d.toJson.at? (d.schemesHome ++ [e.1]) = some e.2.toJson := by
  rw [Json.at?_append, at?_schemesHome (List.ne_nil_of_mem he)]
  show (Json.child? _ e.1).bind _ = _
  rw [Json.child?_table, Table.get?_of_mem h he]
  rfl

/-- **A DECLARED OPERATION STANDS WHERE ITS KEYS LEAD.** -/
theorem at?_operationKeys {d : Document} (h : d.Unambiguous) {x : Declared} (hx : d.Declares x)
    (keys : List String) :
    d.toJson.at? (Issue.operationKeys x.path x.verb ++ keys) = x.operation.toJson.at? keys := by
  obtain ⟨ps, hps, hx⟩ := hx
  obtain ⟨item, hitem, hx⟩ := List.mem_flatMap.mp hx
  obtain ⟨o, ho, rfl⟩ := List.mem_map.mp hx
  have hpaths : d.toJson.child? "paths" = some ps.toJson := by
    rw [child?_paths, hps]
    rfl
  have hpath : ps.toJson.child? item.1 = some item.2.toJson := by
    refine (Json.child?_table PathItem.toJson ps item.1).trans ?_
    rw [Table.get?_of_mem (h.paths ps hps) hitem]
    rfl
  have hverb : item.2.toJson.child? o.1.key = some o.2.toJson := by
    rw [child?_operation, Table.get?_of_mem (h.verbs ps hps item hitem) ho]
    rfl
  simp [Issue.operationKeys, Json.at?, hpaths, hpath, hverb]

/-! ## §4. What issues are about. -/

/-- What an issue is about, and what stands there in the document as it is written.  Requirements and
bodies that an operation does not declare are not written under it: the requirements are those of
the document, and the body is that of a parameter. -/
inductive About (d : Document) : Issue → Option Json → Prop
  | scheme {e : String × SecurityScheme} (he : e ∈ d.declaredSchemes) {reason : Auth.Rejection}
      (h : Auth.normalize e.1 e.2 = .error reason) :
      About d (.schemeIgnored d.schemesHome e.1 reason) (some e.2.toJson)
  | operation {x : Declared} (hx : d.Declares x) (reason : SkipReason) :
      About d (.skipped x.path x.verb reason) (some x.operation.toJson)
  | alternatives {x : Declared} (hx : d.Declares x)
      (h : (x.operation.security.or d.security).isSome) (count : Nat) :
      About d (.alternativesIgnored x.path x.verb count)
        (x.operation.security.map Requirements.toJson)
  | unknown {x : Declared} (hx : d.Declares x)
      (h : (x.operation.security.or d.security).isSome) (name : String) :
      About d (.schemeUndeclared x.path x.verb name) (x.operation.security.map Requirements.toJson)
  | body {x : Declared} (hx : d.Declares x) (h : (x.resolve d).hasBody) (mediaType : String) :
      About d (.bodyApproximated x.path x.verb mediaType)
        (x.operation.requestBody.map (OrRef.toJson RequestBody.toJson))

/-- **AN ISSUE POINTS AT WHAT IT IS ABOUT.** -/
theorem About.locate? {d : Document} (hd : d.Unambiguous) {i : Issue} {node : Option Json}
    (h : d.About i node) : d.toJson.locate? i.pointer = node := by
  rw [Issue.pointer, Json.locate?_ofKeys]
  cases h with
  | scheme he _ => exact at?_scheme hd.schemes he
  | operation hx _ =>
    show d.toJson.at? (Issue.operationKeys _ _) = _
    rw [← List.append_nil (Issue.operationKeys _ _), at?_operationKeys hd hx]
    rfl
  | alternatives hx _ _ =>
    show d.toJson.at? (Issue.operationKeys _ _ ++ ["security"]) = _
    rw [at?_operationKeys hd hx, Json.at?_singleton, child?_security]
  | unknown hx _ _ =>
    show d.toJson.at? (Issue.operationKeys _ _ ++ ["security"]) = _
    rw [at?_operationKeys hd hx, Json.at?_singleton, child?_security]
  | body hx _ _ =>
    show d.toJson.at? (Issue.operationKeys _ _ ++ ["requestBody"]) = _
    rw [at?_operationKeys hd hx, Json.at?_singleton, child?_requestBody]

/-- What is reported of schemes is about declared ones. -/
theorem about_of_mem_catalogIssues {d : Document} {i : Issue} (hi : i ∈ d.catalogIssues) :
    ∃ node, d.About i node := by
  unfold catalogIssues Compilation.catalogIssues at hi
  rw [catalog_eq] at hi
  obtain ⟨⟨name, reason⟩, hrejected, rfl⟩ := List.mem_map.mp hi
  obtain ⟨e, he, heq⟩ := List.mem_filterMap.mp hrejected
  cases hn : Auth.normalize e.1 e.2 with
  | ok scheme =>
    simp only [hn] at heq
    cases heq
  | error reason' =>
    simp only [hn] at heq
    cases heq
    exact ⟨_, .scheme he hn⟩

theorem isSome_of_effective_ne_nil {document operation : Option Requirements}
    (h : Auth.effective document operation ≠ []) : (operation.or document).isSome := by
  cases hor : operation.or document with
  | none =>
    unfold Auth.effective at h
    rw [hor] at h
    exact absurd rfl h
  | some rs => rfl

/-- A method has a body when its operation declares one, in either form. -/
theorem hasBody_of_body {c : Method.Context} {x : Declared} {m : Method}
    {merged : Argument.Merged} {declared : Option RequestBody}
    (h : x.Stages c m merged declared) {b : Body.Plan} (hb : m.body = some b) : x.hasBody := by
  have hplan := h.planning
  rw [hb] at hplan
  obtain ⟨r, hr, -⟩ := Method.plan_of_bodyPlan hplan
  have hdeclaring := h.declaring
  have hmerged := Argument.Merged.of_eq_ok h.merging
  rw [hmerged, hr] at hdeclaring
  unfold Declared.hasBody
  unfold Method.requestBody at hdeclaring
  cases hop : x.operation.requestBody with
  | some body => rfl
  | none =>
    rw [hop] at hdeclaring
    cases holder : x.olderBody? with
    | some p => rfl
    | none =>
      rw [holder] at hdeclaring
      cases hdeclaring

/-- What is reported of an operation is about it, or about what it declares. -/
theorem about_of_mem_issues {d : Document} {models : Models} {options : Options} {x : Declared}
    (hx : d.Declares x) {i : Issue} (hi : i ∈ x.issues (d.outcome models options x)) :
    ∃ node, d.About i node := by
  cases hw : d.outcome models options x with
  | error reason =>
    rw [hw] at hi
    cases List.mem_singleton.mp hi
    exact ⟨_, .operation hx reason⟩
  | ok m =>
    rw [hw] at hi
    have hplace : (m.path.raw, m.verb) = (x.path, x.verb) := place_of_outcome hw
    obtain ⟨⟨merged, body, hstages⟩, -, -, hauth, -⟩ := Declared.stages_of_compile hw
    -- both kinds of issues about requirements have an alternative to speak of
    have hnone : Auth.effective d.security x.operation.security = [] →
        m.auth.ignoredAlternatives = 0 ∧ m.auth.unknownSchemes = [] := by
      intro hnil
      have hplan : m.auth = Auth.plan (Auth.effective d.security x.operation.security)
          (.ofDocument d) m.arguments _ := hauth
      rw [hplan, hnil]
      exact ⟨rfl, rfl⟩
    have hi : i ∈ m.issues := hi
    unfold Method.issues at hi
    rw [(Prod.mk.inj hplace).1, (Prod.mk.inj hplace).2] at hi
    rcases List.mem_append.mp hi with hi | hi
    · rcases List.mem_append.mp hi with hi | hi
      · split at hi
        · rename_i hcount
          cases List.mem_singleton.mp hi
          refine ⟨_, .alternatives hx (isSome_of_effective_ne_nil fun hnil => ?_) _⟩
          exact Nat.ne_of_gt hcount (hnone hnil).1
        · cases hi
      · obtain ⟨name, hname, rfl⟩ := List.mem_map.mp hi
        refine ⟨_, .unknown hx (isSome_of_effective_ne_nil fun hnil => ?_) name⟩
        exact List.ne_nil_of_mem hname (hnone hnil).2
    · split at hi
      · rename_i b hb
        split at hi
        · cases List.mem_singleton.mp hi
          exact ⟨_, .body hx (hasBody_of_body hstages hb) _⟩
        · cases hi
      · cases hi

/-- **WHAT STANDS WHERE AN ISSUE POINTS.**  A document with paths has a compilation, and each of its
issues points at what it is about, as the document is written: nothing is missing there but the
requirements and the body that an operation does not declare itself.

In a document that was read no key is taken twice (`unambiguous_of_load`). -/
theorem exists_compile_pointers (d : Document) (ps : Paths) (models : Models) (options : Options)
    (hps : d.paths = some ps) (hd : d.Unambiguous) :
    ∃ out, d.compile models options = .ok out ∧
      ∀ i ∈ out.issues, ∃ node, d.About i node ∧ d.toJson.locate? i.pointer = node := by
  refine ⟨_, compile_eq_ofOutcomes d ps models options hps, fun i hi => ?_⟩
  obtain ⟨node, habout⟩ : ∃ node, d.About i node := by
    rcases List.mem_append.mp hi with hi | hi
    · exact about_of_mem_catalogIssues hi
    · obtain ⟨x, hx, hi⟩ := List.mem_flatMap.mp hi
      exact about_of_mem_issues ⟨ps, hps, hx⟩ hi
  exact ⟨node, habout, habout.locate? hd⟩

/-- Parcels are listed as the document requires, stored in the older form with a body among the
    parameters, and replaced with requirements and a body of their own; they cannot be removed for
    want of an id. -/
def depotPaths : Paths :=
  [("/parcels", { operations := [
    (.get, { operationId := some "listParcels" }),
    (.post, {
      operationId := some "storeParcel"
      consumes := ["application/xml"]
      parameters := [.inline { name := "parcel", location := .other "body" }]
      security := some [] }),
    (.put, {
      operationId := some "replaceParcel"
      requestBody := some (.inline { content := [("application/xml", {})] })
      security := some [[("key", [])], []] }),
    (.delete, {})] })]

/-- A document of these paths with two alternatives, and two schemes of which one cannot be used. -/
def depotDocument : Document where
  swagger := some "2.0"
  paths := some depotPaths
  security := some [[("key", [])], []]
  securityDefinitions := [
    ("key", { type := .apiKey, name := some "X-Key", location := some .header }),
    ("client", { type := .mutualTls })]

theorem unambiguous_depotDocument : depotDocument.Unambiguous := by
  refine ⟨?_, ?_, ?_⟩
  · show (Table.keys depotDocument.declaredSchemes).Nodup
    decide
  · rintro ps ⟨⟩
    exact List.nodup_singleton _
  · rintro ps ⟨⟩ e he
    cases List.mem_singleton.mp he
    show (Table.keys _).Nodup
    decide

/-- The issues of this document. -/
theorem exists_compile_depotDocument :
    ∃ out, depotDocument.compile .none {} = .ok out ∧
      out.issues = [
        .schemeIgnored ["securityDefinitions"] "client" .mutualTls,
        .alternativesIgnored "/parcels" .get 1,
        .bodyApproximated "/parcels" .post "application/xml",
        .alternativesIgnored "/parcels" .put 1,
        .bodyApproximated "/parcels" .put "application/xml",
        .skipped "/parcels" .delete .missingOperationId] := by
  refine ⟨_, rfl, ?_⟩
  decide +kernel

/-- Of the six issues of this document, the second and the third point at nothing. -/
theorem pointers_of_depotDocument :
    depotDocument.paths = some depotPaths ∧ depotDocument.Unambiguous ∧
    ∃ out, depotDocument.compile .none {} = .ok out ∧
      (∀ i ∈ out.issues, ∃ node, depotDocument.About i node ∧
        depotDocument.toJson.locate? i.pointer = node) ∧
      out.issues.map (fun i => (i.pointer, (depotDocument.toJson.locate? i.pointer).isSome)) = [
        ("#/securityDefinitions/client", true),
        ("#/paths/~1parcels/get/security", false),
        ("#/paths/~1parcels/post/requestBody", false),
        ("#/paths/~1parcels/put/security", true),
        ("#/paths/~1parcels/put/requestBody", true),
        ("#/paths/~1parcels/delete", true)] := by
  have hd := unambiguous_depotDocument
  obtain ⟨out, hout, hpointers⟩ := exists_compile_pointers depotDocument depotPaths .none {} rfl hd
  obtain ⟨out', hout', hissues⟩ := exists_compile_depotDocument
  cases hout.symm.trans hout'
  refine ⟨rfl, hd, out, hout, hpointers, ?_⟩
  rw [hissues]
  decide +kernel

/-- **AN ISSUE MAY POINT AT NOTHING.** -/
theorem exists_pointer_to_nothing :
    ¬ ∀ (d : Document) (models : Models) (options : Options) (out : Compilation),
      d.Unambiguous → d.compile models options = .ok out →
        ∀ i ∈ out.issues, (d.toJson.locate? i.pointer).isSome := by
  intro hall
  obtain ⟨out, hout, hissues⟩ := exists_compile_depotDocument
  have hlocated := hall depotDocument .none {} out unambiguous_depotDocument hout
    (.alternativesIgnored "/parcels" .get 1) (by rw [hissues]; simp)
  revert hlocated
  decide +kernel

end Document

end ApiMethods
