/-
  ApiMethods.Proofs.Accounts
  ──────────────────────────
  **EVERY DECLARED OPERATION, AND EVERY ISSUE, IS ACCOUNTED FOR.**

  A report is read as a list of NOTICES: how grave, what, and where.  They are written down here
  from the declarations and the outcomes alone, in the words and with the pointers that a reader
  sees (`Declared.notices`, `Document.schemeNotice?`).  `Document.Accounts` then says of a
  compilation that it holds

    • one method for every operation that compiles, one entry for every other, in the order of
      the walk, and nothing else;
    • the notices of the security schemes, then those of the operations, in their orders, and
      nothing else;
    • every declared scheme either in the catalog, and no notice points at it, or outside, and
      exactly one does.
-/
import ApiMethods.Proofs.Outcomes
import ApiMethods.Proofs.Pointers

namespace ApiMethods

open ApiMethods.Reference (Pointer.ofKeys Pointer.ofKeys_append Pointer.ofKeys_injective)
open Document (Paths SecurityScheme)

/-! ## §1. Notices. -/

/-- What a reader sees of an issue. -/
structure Notice where
  severity : String
  message : String
  pointer : String
deriving Repr, DecidableEq

namespace Notice

/-- Something that its author has to mend. -/
def warning (message pointer : String) : Notice := ⟨"warning", message, pointer⟩

/-- Something that its author should know. -/
def info (message pointer : String) : Notice := ⟨"info", message, pointer⟩

end Notice

/-- An issue as it is seen. -/
def Issue.notice (i : Issue) : Notice := ⟨i.severity, i.message, i.pointer⟩

namespace Declared

/-- The pointer to a declared operation. -/
def pointer (x : Declared) : String := Pointer.ofKeys ["paths", x.path, x.verb.key]

/-- The notices of an operation: its reason when it was left out, else the alternatives that were
    not looked at, the schemes that nobody declared, and a body that is only approximated. -/
def notices (x : Declared) : Except SkipReason Method → List Notice
  | .error reason => [.warning ("skipped: " ++ reason.message) x.pointer]
  | .ok m =>
    (if m.auth.ignoredAlternatives = 0 then [] else
      [.info (toString m.auth.ignoredAlternatives ++
        " alternative security requirement(s) ignored; only the first is used")
        (x.pointer ++ "/security")]) ++
    m.auth.unknownSchemes.map (fun name =>
      .warning ("security scheme \x60" ++ name ++ "\x60 is not declared")
        (x.pointer ++ "/security")) ++
    (m.body.filter (·.approximate)).toList.map (fun b =>
      .info ("\x60" ++ b.content.selected ++ "\x60 body is encoded as JSON")
        (x.pointer ++ "/requestBody"))

end Declared

namespace Document

/-- The security schemes that a document declares. -/
def declaredSchemes (d : Document) : Table String SecurityScheme :=
  match d.components3 with
  | some c => c.securitySchemes
  | none => d.securityDefinitions

/-- The keys that lead to the declared schemes. -/
def schemesHome (d : Document) : List String :=
  match d.components3 with
  | some _ => ["components", "securitySchemes"]
  | none => ["securityDefinitions"]

/-- The pointer to the declared scheme with a name. -/
def schemePointer (d : Document) (name : String) : String := Pointer.ofKeys (d.schemesHome ++ [name])

/-- The notice of a declared scheme, unless it can be used. -/
def schemeNotice? (d : Document) (e : String × SecurityScheme) : Option Notice :=
  match Auth.normalize e.1 e.2 with
  | .ok _ => none
  | .error reason =>
    some (.warning ("security scheme \x60" ++ e.1 ++ "\x60 ignored: " ++ reason.message)
      (d.schemePointer e.1))

end Document

/-! ## §2. The notices of operations. -/

namespace Declared

/-! The issues of a method as they are seen: under one more key than its operation. -/

theorem pointer_append (x : Declared) (key : String) :
    Pointer.ofKeys (Issue.operationKeys x.path x.verb ++ [key])
      = x.pointer ++ String.ofList ('/' :: Reference.Pointer.escape key) :=
  Pointer.ofKeys_append _ key

theorem notice_alternativesIgnored (x : Declared) (count : Nat) :
    (Issue.alternativesIgnored x.path x.verb count).notice
      = .info (toString count ++
        " alternative security requirement(s) ignored; only the first is used")
        (x.pointer ++ "/security") := by
  have hpointer := x.pointer_append "security"
  show Notice.mk _ _ (Pointer.ofKeys (Issue.operationKeys x.path x.verb ++ ["security"])) = _
  rw [hpointer]
  rfl

theorem notice_schemeUndeclared (x : Declared) (name : String) :
    (Issue.schemeUndeclared x.path x.verb name).notice
      = .warning ("security scheme \x60" ++ name ++ "\x60 is not declared")
        (x.pointer ++ "/security") := by
  have hpointer := x.pointer_append "security"
  show Notice.mk _ _ (Pointer.ofKeys (Issue.operationKeys x.path x.verb ++ ["security"])) = _
  rw [hpointer]
  rfl

theorem notice_bodyApproximated (x : Declared) (mediaType : String) :
    (Issue.bodyApproximated x.path x.verb mediaType).notice
      = .info ("\x60" ++ mediaType ++ "\x60 body is encoded as JSON")
        (x.pointer ++ "/requestBody") := by
  have hpointer := x.pointer_append "requestBody"
  show Notice.mk _ _ (Pointer.ofKeys (Issue.operationKeys x.path x.verb ++ ["requestBody"])) = _
  rw [hpointer]
  rfl

/-- **WHAT IS REPORTED OF AN OPERATION IS SEEN AS ITS NOTICES.** -/
theorem map_notice_issues {x : Declared} {w : Except SkipReason Method}
    (hplace : ∀ m, w = .ok m → m.place = x.place) :
    (x.issues w).map Issue.notice = x.notices w := by
  cases w with
  | error reason => rfl
  | ok m =>
    have hm : (m.path.raw, m.verb) = (x.path, x.verb) := hplace m rfl
    rw [Prod.mk.injEq] at hm
    show m.issues.map Issue.notice = _
    unfold Method.issues notices
    rw [hm.1, hm.2, List.map_append, List.map_append, List.map_map]
    -- the alternatives, the schemes and the body are reported one behind the other
    refine congrArg₂ (· ++ ·) (congrArg₂ (· ++ ·) ?_ ?_) ?_
    · by_cases hzero : m.auth.ignoredAlternatives = 0
      · rw [if_neg (by omega), if_pos hzero]
        rfl
      · rw [if_pos (by omega), if_neg hzero, List.map_singleton, notice_alternativesIgnored]
    · exact List.map_congr_left fun name _ => x.notice_schemeUndeclared name
    · cases m.body with
      | none => rfl
      | some b =>
        cases hb : b.approximate with
        | false => simp [Option.filter, hb]
        | true => simp [Option.filter, hb, notice_bodyApproximated]

end Declared

/-! ## §3. The notices of security schemes. -/

/-- Where keys are distinct, only one entry speaks for a key. -/
theorem Table.filterMap_key_eq {κ α β : Type} [DecidableEq κ] {t : Table κ α} (h : t.Distinct)
    {e : κ × α} (he : e ∈ t) (f : κ × α → Option β) :
    (t.filterMap fun e' => if e'.1 = e.1 then f e' else none) = (f e).toList := by
  have hfilter := List.filterMap_filter (p := fun e' => decide (e'.1 = e.1)) (f := f) (l := t)
  simp only [decide_eq_true_eq] at hfilter
  rw [← hfilter, Table.filter_key_eq h he]
  cases hf : f e <;> simp [hf]

namespace Document

theorem catalog_eq (d : Document) :
    Auth.Catalog.ofDocument d = .ofTable d.schemesHome d.declaredSchemes := by
  unfold Auth.Catalog.ofDocument schemesHome declaredSchemes
  cases d.components3 <;> rfl

/-- **THE CATALOG HAS THE SCHEMES THAT NORMALIZE**, under their names. -/
theorem get?_catalog {d : Document} (h : d.declaredSchemes.Distinct) {e : String × SecurityScheme}
    (he : e ∈ d.declaredSchemes) :
    (Auth.Catalog.ofDocument d).get? e.1 = (Auth.normalize e.1 e.2).toOption := by
  have hkey : ∀ e' : String × SecurityScheme,
      Option.filter (fun n => n.1 = e.1) ((Auth.normalize e'.1 e'.2).toOption.map (e'.1, ·))
        = if e'.1 = e.1 then (Auth.normalize e'.1 e'.2).toOption.map (e'.1, ·) else none := by
    intro e'
    by_cases hname : e'.1 = e.1 <;> cases (Auth.normalize e'.1 e'.2).toOption <;>
      simp [Option.filter, hname]
  rw [catalog_eq]
  show Table.get? (d.declaredSchemes.filterMap fun e' =>
    (Auth.normalize e'.1 e'.2).toOption.map (e'.1, ·)) e.1 = _
  rw [Table.get?_eq_head?, List.filter_filterMap]
  simp only [hkey]
  rw [Table.filterMap_key_eq h he fun e' => (Auth.normalize e'.1 e'.2).toOption.map (e'.1, ·)]
  cases (Auth.normalize e.1 e.2).toOption <;> rfl

/-- The issues of the catalog are seen as the notices of the declared schemes. -/
theorem map_notice_catalogIssues (d : Document) :
    d.catalogIssues.map Issue.notice = d.declaredSchemes.filterMap d.schemeNotice? := by
  unfold catalogIssues Compilation.catalogIssues
  rw [catalog_eq]
  show List.map _ (List.map _ (d.declaredSchemes.filterMap _)) = _
  rw [List.map_map, List.map_filterMap]
  refine List.filterMap_congr fun e _ => ?_
  obtain ⟨name, scheme⟩ := e
  unfold schemeNotice?
  dsimp only
  cases Auth.normalize name scheme <;> rfl

/-- **ONE NOTICE POINTS AT A SCHEME THAT CANNOT BE USED**, and none at any other. -/
theorem filter_schemeNotices {d : Document} (h : d.declaredSchemes.Distinct)
    {e : String × SecurityScheme} (he : e ∈ d.declaredSchemes) :
    (d.declaredSchemes.filterMap d.schemeNotice?).filter (·.pointer = d.schemePointer e.1)
      = (d.schemeNotice? e).toList := by
  have hkey : ∀ e' : String × SecurityScheme,
      Option.filter (fun n => n.pointer = d.schemePointer e.1) (d.schemeNotice? e')
        = if e'.1 = e.1 then d.schemeNotice? e' else none := by
    intro e'
    unfold schemeNotice?
    cases Auth.normalize e'.1 e'.2 with
    | ok scheme => simp [Option.filter]
    | error reason =>
      have hpointer : d.schemePointer e'.1 = d.schemePointer e.1 ↔ e'.1 = e.1 := by
        constructor
        · intro heq
          have hkeys := List.append_cancel_left (Pointer.ofKeys_injective heq)
          exact (List.cons.inj hkeys).1
        · intro heq
          rw [heq]
      simp [Option.filter, Notice.warning, hpointer]
  rw [List.filter_filterMap]
  simp only [hkey]
  exact Table.filterMap_key_eq h he d.schemeNotice?

/-- Nothing that is reported of an operation points at a scheme. -/
theorem pointer_ne_schemePointer (d : Document) (name : String) {x : Declared}
    {w : Except SkipReason Method} (hplace : ∀ m, w = .ok m → m.place = x.place) {i : Issue}
    (hi : i ∈ x.issues w) : i.pointer ≠ d.schemePointer name := by
  intro heq
  have hkeys : i.keys = d.schemesHome ++ [name] := Pointer.ofKeys_injective heq
  have hprefix := Declared.keys_of_mem_issues hplace hi
  rw [hkeys] at hprefix
  -- the keys of operations begin at the paths, those of schemes do not
  unfold schemesHome at hprefix
  cases hcomponents : d.components3 <;> rw [hcomponents] at hprefix <;>
    exact absurd (List.cons_prefix_cons.mp hprefix).1 (by decide)

end Document

/-! ## §4. The accounts. -/

/-- Every operation of a walk is among the methods or among those left out, as often as in the
    walk. -/
theorem perm_places {walk : List Declared} {outcome : Declared → Except SkipReason Method}
    (hplace : ∀ x ∈ walk, ∀ m, outcome x = .ok m → m.place = x.place) :
    ((walk.filterMap fun x => (outcome x).toOption).map Method.place ++
      (walk.filterMap fun x => x.skipped? (outcome x)).map Skipped.place).Perm
        (walk.map Declared.place) := by
  induction walk with
  | nil => exact .nil
  | cons x rest ih =>
    have hrest := ih fun y hy => hplace y (List.mem_cons_of_mem x hy)
    cases hx : outcome x with
    | ok m =>
      rw [List.filterMap_cons_some (b := m) (by rw [hx]; rfl),
        List.filterMap_cons_none (by rw [hx]; rfl), List.map_cons, List.map_cons,
        hplace x List.mem_cons_self m hx]
      exact hrest.cons _
    | error reason =>
      rw [List.filterMap_cons_none (by rw [hx]; rfl),
        List.filterMap_cons_some (b := ⟨x.verb, x.path, reason⟩) (by rw [hx]; rfl), List.map_cons,
        List.map_cons]
      exact List.perm_middle.trans (hrest.cons _)

namespace Document

/-- What a compilation says of the operations and the schemes of a document. -/
structure Accounts (d : Document) (models : Models) (options : Options) (ps : Paths)
    (out : Compilation) : Prop where
  /-- The methods are those of the operations that compile, in the order of the walk. -/
  methods : out.methods = ps.declared.filterMap fun x => (d.outcome models options x).toOption
  /-- A method has the verb and the path of its operation. -/
  place : ∀ x m, d.outcome models options x = .ok m → m.verb = x.verb ∧ m.path.raw = x.path
  /-- What was left out are the other operations, in the same order, each with its reason. -/
  skipped : out.skipped = ps.declared.filterMap fun x =>
    (fault? (d.outcome models options x)).map fun reason => ⟨x.verb, x.path, reason⟩
  /-- No place of the walk is lost, and none is taken twice. -/
  once : (out.methods.map Method.place ++ out.skipped.map Skipped.place).Perm
    (ps.declared.map Declared.place)
  /-- The notices are those of the schemes, and then those of the operations. -/
  notices : out.issues.map Issue.notice = d.declaredSchemes.filterMap d.schemeNotice? ++
    ps.declared.flatMap fun x => x.notices (d.outcome models options x)
  /-- A scheme is in the catalog and no notice points at it, or it is not and exactly one does.  The
  names of schemes are distinct in every document that was read (`Document.keyed_of_load`). -/
  schemes : d.declaredSchemes.Distinct → ∀ e ∈ d.declaredSchemes,
    let found := (Auth.Catalog.ofDocument d).get? e.1
    let seen := (out.issues.map Issue.notice).filter (·.pointer = d.schemePointer e.1)
    (∃ scheme, Auth.normalize e.1 e.2 = .ok scheme ∧ found = some scheme ∧ seen = []) ∨
    (∃ notice, d.schemeNotice? e = some notice ∧ found = none ∧ seen = [notice])

/-- **EVERYTHING IS ACCOUNTED FOR.**  A document with paths has a compilation, and the compilation
tells of each operation exactly once what became of it, of each scheme whether it can be used, and
of nothing else. -/
theorem exists_accounts (d : Document) (ps : Paths) (models : Models) (options : Options)
    (h : d.paths = some ps) :
    ∃ out, d.compile models options = .ok out ∧ d.Accounts models options ps out := by
  have hplace : ∀ (x : Declared) (m : Method), d.outcome models options x = .ok m →
      m.place = x.place := fun x m => place_of_outcome
  have hnotices : (d.catalogIssues ++ ps.declared.flatMap fun x =>
      x.issues (d.outcome models options x)).map Issue.notice
        = d.declaredSchemes.filterMap d.schemeNotice? ++
          ps.declared.flatMap fun x => x.notices (d.outcome models options x) := by
    rw [List.map_append, map_notice_catalogIssues, List.map_flatMap]
    refine congrArg (d.declaredSchemes.filterMap d.schemeNotice? ++ ·) ?_
    exact List.flatMap_congr fun x _ => Declared.map_notice_issues (hplace x)
  refine ⟨_, compile_eq_ofOutcomes d ps models options h, rfl, ?_, ?_, ?_, hnotices, ?_⟩
  · intro x m hm
    have hm : (m.path.raw, m.verb) = (x.path, x.verb) := hplace x m hm
    exact ⟨congrArg Prod.snd hm, congrArg Prod.fst hm⟩
  · refine List.filterMap_congr fun x _ => ?_
    cases d.outcome models options x <;> rfl
  · exact perm_places fun x _ => hplace x
  · intro hdistinct e he found seen
    have hseen : seen = (d.schemeNotice? e).toList := by
      show List.filter _ (List.map _ (_ ++ _)) = _
      rw [List.map_append, List.filter_append, map_notice_catalogIssues,
        filter_schemeNotices hdistinct he]
      refine List.append_right_eq_self.mpr (List.filter_eq_nil_iff.mpr ?_)
      rintro n hn hpointer
      obtain ⟨i, hi, rfl⟩ := List.mem_map.mp hn
      obtain ⟨x, -, hi⟩ := List.mem_flatMap.mp hi
      exact pointer_ne_schemePointer d e.1 (hplace x) hi (of_decide_eq_true hpointer)
    have hfound : found = (Auth.normalize e.1 e.2).toOption := get?_catalog hdistinct he
    rw [hseen, hfound]
    unfold schemeNotice?
    cases Auth.normalize e.1 e.2 with
    | ok scheme => exact .inl ⟨scheme, rfl, rfl, rfl⟩
    | error reason => exact .inr ⟨_, rfl, rfl, rfl⟩

/-- Orders are placed in XML, under a key and a scheme that nobody declares; they cannot be read for
    want of an id. -/
def orderPaths : Paths :=
  [("/orders", { operations := [
    (.post, {
      operationId := some "order"
      requestBody := some (.inline { content := [("application/xml", {})] })
      security := some [[("key", []), ("ghost", [])], []] }),
    (.get, {})] })]

/-- A document of these paths with two schemes, one of which cannot be used. -/
def orderDocument : Document where
  swagger := some "2.0"
  paths := some orderPaths
  securityDefinitions := [
    ("key", { type := .apiKey, name := some "X-Key", location := some .header }),
    ("client", { type := .mutualTls })]

/-- The two operations, the two schemes and the five notices of this document. -/
theorem accounts_of_orderDocument :
    orderDocument.paths = some orderPaths ∧ orderDocument.declaredSchemes.Distinct ∧
    ∃ out, orderDocument.compile .none {} = .ok out ∧
      orderDocument.Accounts .none {} orderPaths out ∧
      out.methods.map Method.place = [("/orders", .post)] ∧
      out.skipped = [⟨.get, "/orders", .missingOperationId⟩] ∧
      out.issues.map Issue.notice = [
        .warning "security scheme \x60client\x60 ignored: mutualTLS is not supported"
          "#/securityDefinitions/client",
        .info "1 alternative security requirement(s) ignored; only the first is used"
          "#/paths/~1orders/post/security",
        .warning "security scheme \x60ghost\x60 is not declared" "#/paths/~1orders/post/security",
        .info "\x60application/xml\x60 body is encoded as JSON" "#/paths/~1orders/post/requestBody",
        .warning "skipped: operation has no operationId" "#/paths/~1orders/get"] := by
  obtain ⟨out, hout, haccounts⟩ := exists_accounts orderDocument orderPaths .none {} rfl
  have hdistinct : orderDocument.declaredSchemes.keys.Nodup := by decide
  refine ⟨rfl, hdistinct, out, hout, haccounts, ?_, ?_, ?_⟩
  · rw [haccounts.methods]
    decide +kernel
  · rw [haccounts.skipped]
    decide +kernel
  · rw [haccounts.notices]
    decide +kernel

end Document

end ApiMethods
