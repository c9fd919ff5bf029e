/-
  ApiMethods.Proofs.OptionEffects
  ───────────────────────────────
  **EACH OPTION CHANGES ONLY WHAT IT IS FOR.**

  A document is compiled twice, with options that differ in one respect:

      aliases                 the names of methods change, and nothing else,
      generic credentials     the steps of authentication change, and only those of operations
                              that leave authentication OPEN: they have no requirements of their
                              own, and the alternative that holds for them names no known scheme,
      deriving of ids         the operations without an id are tried at all; whatever has an id
                              has the same outcome.

  STEP: every option is looked at in one stage of a compilation (`identifierOf`, `nameOf` or
  `authPlan`), and the other stages are the same in both runs.  RUN: two runs over one walk are
  compared outcome by outcome.
-/
import ApiMethods.Proofs.Outcomes
import ApiMethods.Proofs.SkipRules

namespace ApiMethods

open Document (Operation Paths Requirements)

/-! ## §1. What the options are for. -/

/-- A method without its name. -/
def Method.withoutName (m : Method) : Method := { m with name := .of "" }

/-- A method without its steps of authentication. -/
def Method.withoutInstructions (m : Method) : Method :=
  { m with auth := { m.auth with instructions := [] } }

/-- The generic credentials that options allow. -/
def Options.generic (o : Options) : List Auth.Instruction :=
  if o.legacyFallback then [.fallback o.apiKeyHeader] else []

/-- An operation leaves authentication open when it has no requirements of its own, and the first
    alternative around it, if there is one, names no scheme that is known. -/
def Auth.LeftOpen (catalog : Auth.Catalog) (document : Option Requirements) (op : Operation) :
    Prop :=
  op.security = none ∧
    ∀ first ∈ (Auth.effective document op.security).head?, ∀ name ∈ first.keys,
      catalog.get? name = none

namespace Document

/-- The operation leaves authentication open in its document. -/
def LeavesOpen (d : Document) (op : Operation) : Prop :=
  Auth.LeftOpen (.ofDocument d) d.security op

/-- Two methods of one operation under different options agree up to GENERIC credentials: they
differ in their steps of authentication at most, and in these only when the operation leaves
authentication open.  Then each of them sends what its options allow, and nothing else. -/
structure AgreeUpToGeneric (d : Document) (models : Models) (o o' : Options) (m m' : Method) :
    Prop where
  /-- Both are methods of one operation. -/
  operation : ∃ x, d.Declares x ∧ d.outcome models o x = .ok m ∧ d.outcome models o' x = .ok m' ∧
    (d.LeavesOpen x.operation →
      m.auth.instructions = o.generic ∧ m'.auth.instructions = o'.generic) ∧
    (¬ d.LeavesOpen x.operation → m = m')
  /-- They agree in everything but these steps. -/
  rest : m.withoutInstructions = m'.withoutInstructions

end Document

/-! ## §2. Step: aliases. -/

/-- Another table of aliases leads to the same method under another name. -/
theorem Declared.map_withoutName_compile (c : Method.Context) (aliases : Table String String)
    (x : Declared) :
    (x.compile { c with options := { c.options with aliases := aliases } }).map Method.withoutName
      = (x.compile c).map Method.withoutName := by
  unfold compile Method.compile
  -- ids are made without the aliases, and no stage behind the name looks at it
  refine map_bind_congr fun id => ?_
  refine map_bind_congr fun merged => ?_
  refine map_bind_congr fun args => ?_
  refine map_bind_congr fun template => ?_
  refine map_bind_congr fun declared => ?_
  refine map_bind_congr fun body => ?_
  refine map_bind_congr fun reply => ?_
  rfl

/-! ## §3. Step: generic credentials. -/

namespace Method

variable (c : Context) {op : Operation} (args : Arguments)

/-- No scheme of the alternative around an operation that leaves authentication open applies. -/
theorem applies_eq_false_of_leftOpen (h : Auth.LeftOpen c.catalog c.security op) :
    Auth.applies c.catalog ((Auth.effective c.security op.security).headD []) = false := by
  obtain ⟨-, hfirst⟩ := h
  unfold Auth.applies
  rw [List.any_eq_false]
  intro name hname
  cases hhead : Auth.effective c.security op.security with
  | nil =>
    rw [hhead] at hname
    cases hname
  | cons first rest =>
    rw [hhead] at hname hfirst
    rw [hfirst first rfl name hname]
    exact Bool.false_ne_true

/-- An alternative of which no scheme applies asks for no steps. -/
theorem instructions_of_not_applies {catalog : Auth.Catalog} {first : Document.Requirement}
    (h : Auth.applies catalog first = false) : Auth.instructions catalog args first = [] := by
  unfold Auth.applies at h
  rw [List.any_eq_false] at h
  refine List.filterMap_eq_nil_iff.mpr fun e he => ?_
  have hnone : catalog.get? e.1 = none := by
    simpa using h e.1 (List.mem_map_of_mem he)
  show (catalog.get? e.1).bind _ = none
  rw [hnone]
  rfl

/-- **AN OPERATION THAT LEAVES AUTHENTICATION OPEN SENDS GENERIC CREDENTIALS**, as far as the
options allow them, and nothing else. -/
theorem instructions_of_leftOpen (h : Auth.LeftOpen c.catalog c.security op) :
    (authPlan c op args).instructions = c.options.generic := by
  have happlies := applies_eq_false_of_leftOpen c h
  unfold authPlan
  rw [Auth.plan_eq]
  dsimp only
  rw [instructions_of_not_applies args happlies, happlies, h.1]
  unfold Options.generic
  cases c.options.legacyFallback <;> rfl

/-- Any other operation does not look at the options. -/
theorem authPlan_of_not_leftOpen (o : Options) (h : ¬ Auth.LeftOpen c.catalog c.security op) :
    authPlan { c with options := o } op args = authPlan c op args := by
  by_cases hnone : op.security = none
  · -- a known scheme applies, and generic credentials give way to it
    have happlies :
        Auth.applies c.catalog ((Auth.effective c.security op.security).headD []) = true := by
      by_contra hfalse
      refine h ⟨hnone, fun first hfirst name hname => ?_⟩
      cases heffective : Auth.effective c.security op.security with
      | nil =>
        rw [heffective] at hfirst
        cases hfirst
      | cons head rest =>
        rw [heffective] at hfirst hfalse
        cases hfirst
        have hnot := List.any_eq_false.mp (Bool.eq_false_iff.mpr hfalse) name hname
        simpa using hnot
    unfold authPlan
    simp only [Auth.plan_eq, happlies, if_true]
  · -- whoever has requirements of its own is sent no generic credentials
    have hsome : op.security.isNone = false := by
      cases hs : op.security with
      | none => exact absurd hs hnone
      | some own => rfl
    unfold authPlan
    simp only [hsome, Bool.and_false, Bool.false_eq_true, if_false]

end Method

namespace Declared

variable (c : Method.Context) (fallback : Bool) (header : String)

/-- With other generic credentials an operation has the same outcome, up to its steps of
    authentication. -/
theorem map_withoutInstructions_compile (x : Declared) :
    (x.compile { c with options :=
        { c.options with legacyFallback := fallback, apiKeyHeader := header } }).map
        Method.withoutInstructions
      = (x.compile c).map Method.withoutInstructions := by
  unfold compile Method.compile
  refine map_bind_congr fun id => ?_
  refine map_bind_congr fun merged => ?_
  refine map_bind_congr fun args => ?_
  refine map_bind_congr fun template => ?_
  refine map_bind_congr fun declared => ?_
  refine map_bind_congr fun body => ?_
  refine map_bind_congr fun reply => ?_
  rfl

/-- With other generic credentials an operation that does not leave authentication open has the same
    outcome. -/
theorem compile_of_not_leftOpen {x : Declared}
    (h : ¬ Auth.LeftOpen c.catalog c.security x.operation) :
    x.compile { c with options :=
        { c.options with legacyFallback := fallback, apiKeyHeader := header } } = x.compile c := by
  unfold compile Method.compile
  simp only [Method.authPlan_of_not_leftOpen c _ _ h]
  rfl

end Declared

/-! ## §4. Step: deriving ids. -/

/-- Only the rule on names can find that an id is missing. -/
theorem Rule.of_reason?_missingOperationId {o : Options} {x : Declared} {rule : Rule}
    (h : rule.reason? o x = some .missingOperationId) :
    x.operation.operationId = none ∧ o.deriveMissingIds = false := by
  -- the other rules name a reference, a parameter, a placeholder or a body
  cases rule with
  | named =>
    unfold reason? at h
    cases hid : x.operation.operationId with
    | some id =>
      rw [hid] at h
      dsimp only at h
      split at h <;> cases h
    | none =>
      rw [hid] at h
      cases hderive : o.deriveMissingIds with
      | true => simp [hderive] at h
      | false => exact ⟨rfl, rfl⟩
  | resolved =>
    obtain ⟨p, -, hp⟩ := List.exists_of_findSome?_eq_some h
    obtain ⟨target, -, htarget⟩ := Option.map_eq_some_iff.mp hp
    cases htarget
  | typed =>
    obtain ⟨⟨⟨name, location⟩, p⟩, -, hp⟩ := List.exists_of_findSome?_eq_some h
    cases Argument.typeFault?_eq_some_iff.mp hp
  | bound =>
    rcases Option.or_eq_some_iff.mp h with hslot | ⟨-, hunused⟩
    · obtain ⟨slot, -, hslot⟩ := List.exists_of_findSome?_eq_some hslot
      unfold Path.slotFaultAt? at hslot
      repeat' split at hslot
      all_goals cases hslot
    · obtain ⟨name, -, hname⟩ := Option.map_eq_some_iff.mp hunused
      cases hname
  | bodyKnown =>
    obtain ⟨target, -, htarget⟩ := Option.map_eq_some_iff.mp h
    cases htarget
  | bodyAdmitted =>
    simp only [reason?] at h
    split at h <;> cases h
  | bodyFilled =>
    simp only [reason?] at h
    repeat' split at h
    all_goals cases h
  | replyKnown =>
    obtain ⟨target, -, htarget⟩ := Option.map_eq_some_iff.mp h
    cases htarget

namespace Declared

variable (c : Method.Context)

/-- An operation with an id has the same outcome whether ids are derived or not. -/
theorem compile_of_operationId {x : Declared} {id : String}
    (h : x.operation.operationId = some id) (derive : Bool) :
    x.compile { c with options := { c.options with deriveMissingIds := derive } } = x.compile c := by
  unfold compile Method.compile Method.identifierOf
  simp only [h]
  rfl

/-- The lack of an id is the reason of an operation exactly when it has no id and ids are not
    derived. -/
theorem compile_eq_missingOperationId {x : Declared} :
    x.compile c = .error .missingOperationId ↔
      x.operation.operationId = none ∧ c.options.deriveMissingIds = false := by
  constructor
  · intro h
    have hfault := x.fault?_compile c
    rw [h] at hfault
    obtain ⟨rule, -, hrule⟩ := List.exists_of_findSome?_eq_some hfault.symm
    exact Rule.of_reason?_missingOperationId hrule
  · rintro ⟨hid, hderive⟩
    unfold compile Method.compile Method.identifierOf
    rw [hid]
    simp only [hderive, Bool.false_eq_true, if_false]
    rfl

end Declared

/-! ## §5. What is left out does not show elsewhere. -/

namespace Method

/-! Neither a name nor the steps of authentication are reported or imported. -/

theorem issues_withoutName (m : Method) : m.withoutName.issues = m.issues := rfl

theorem imports_withoutName (models : Models) (m : Method) :
    m.withoutName.imports models = m.imports models := rfl

theorem issues_withoutInstructions (m : Method) : m.withoutInstructions.issues = m.issues := rfl

theorem imports_withoutInstructions (models : Models) (m : Method) :
    m.withoutInstructions.imports models = m.imports models := rfl

end Method

/-- Where one function goes further than another, so do the lists that they make. -/
theorem sublist_filterMap {α β : Type} {f g : α → Option β} {l : List α}
    (h : ∀ a ∈ l, ∀ b, f a = some b → g a = some b) :
    (l.filterMap f).Sublist (l.filterMap g) := by
  induction l with
  | nil => exact .slnil
  | cons a rest ih =>
    have hrest := ih fun b hb => h b (List.mem_cons_of_mem a hb)
    cases hf : f a with
    | none =>
      rw [List.filterMap_cons_none hf]
      refine hrest.trans ?_
      rw [List.filterMap_cons]
      cases g a with
      | none => exact .refl _
      | some b => exact List.sublist_cons_self _ _
    | some b =>
      rw [List.filterMap_cons_some hf, List.filterMap_cons_some (h a List.mem_cons_self b hf)]
      exact hrest.cons_cons b

/-! ## §6. Run: all operations. -/

namespace Document

section Run

variable (d : Document) (models : Models) (o : Options)

/-- With other aliases an operation has the same outcome, up to the name of its method. -/
theorem map_withoutName_outcome (aliases : Table String String) (x : Declared) :
    (d.outcome models { o with aliases := aliases } x).map Method.withoutName
      = (d.outcome models o x).map Method.withoutName :=
  (x.resolve d).map_withoutName_compile (.of d models o) aliases

/-- With other generic credentials an operation has the same outcome, up to its steps of
    authentication. -/
theorem map_withoutInstructions_outcome (fallback : Bool) (header : String) (x : Declared) :
    (d.outcome models { o with legacyFallback := fallback, apiKeyHeader := header } x).map
        Method.withoutInstructions
      = (d.outcome models o x).map Method.withoutInstructions :=
  (x.resolve d).map_withoutInstructions_compile (.of d models o) fallback header

/-- The method of an operation that leaves authentication open sends generic credentials. -/
theorem instructions_of_leavesOpen {x : Declared} {m : Method} (h : d.LeavesOpen x.operation)
    (hm : d.outcome models o x = .ok m) : m.auth.instructions = o.generic := by
  obtain ⟨-, -, -, hauth, -⟩ := Declared.stages_of_compile hm
  -- resolving an operation leaves its requirements as they are
  have hopen : Auth.LeftOpen (Auth.Catalog.ofDocument d) d.security (x.resolve d).operation := h
  rw [hauth]
  exact Method.instructions_of_leftOpen (.of d models o) m.arguments hopen

/-- With other generic credentials the methods of an operation agree up to them. -/
theorem agreeUpToGeneric_of_outcome (fallback : Bool) (header : String) {x : Declared}
    (hx : d.Declares x) :
    let o' : Options := { o with legacyFallback := fallback, apiKeyHeader := header }
    Option.Rel (d.AgreeUpToGeneric models o o') (d.outcome models o x).toOption
      (d.outcome models o' x).toOption := by
  intro o'
  have hrest := d.map_withoutInstructions_outcome models o fallback header x
  cases hm : d.outcome models o x with
  | error reason =>
    cases hm' : d.outcome models o' x with
    | error reason' => exact .none
    | ok m' =>
      rw [hm, hm'] at hrest
      cases hrest
  | ok m =>
    cases hm' : d.outcome models o' x with
    | error reason' =>
      rw [hm, hm'] at hrest
      cases hrest
    | ok m' =>
      rw [hm, hm'] at hrest
      refine .some ⟨⟨x, hx, hm, hm', fun hopen => ⟨?_, ?_⟩, fun hclosed => ?_⟩, ?_⟩
      · exact d.instructions_of_leavesOpen models o hopen hm
      · exact d.instructions_of_leavesOpen models o' hopen hm'
      · have hsame : d.outcome models o' x = d.outcome models o x :=
          (x.resolve d).compile_of_not_leftOpen (.of d models o) fallback header hclosed
        exact Except.ok.inj (hm.symm.trans (hsame.symm.trans hm'))
      · exact (Except.ok.inj hrest).symm

/-- An operation with an id has the same outcome whether ids are derived or not. -/
theorem outcome_of_operationId {x : Declared} {id : String}
    (h : x.operation.operationId = some id) (derive : Bool) :
    d.outcome models { o with deriveMissingIds := derive } x = d.outcome models o x :=
  Declared.compile_of_operationId (.of d models o) (x := x.resolve d) h derive

/-- The lack of an id is the reason of an operation exactly when it has no id and ids are not
    derived. -/
theorem outcome_eq_missingOperationId {x : Declared} :
    d.outcome models o x = .error .missingOperationId ↔
      x.operation.operationId = none ∧ o.deriveMissingIds = false :=
  Declared.compile_eq_missingOperationId (.of d models o) (x := x.resolve d)

/-- What ends without the lack of an id while ids are not derived ends the same way when they
    are. -/
theorem outcome_derived {x : Declared}
    (h : d.outcome models { o with deriveMissingIds := false } x ≠ .error .missingOperationId) :
    d.outcome models { o with deriveMissingIds := true } x
      = d.outcome models { o with deriveMissingIds := false } x := by
  cases hid : x.operation.operationId with
  | none => exact absurd ((d.outcome_eq_missingOperationId models _).mpr ⟨hid, rfl⟩) h
  | some id =>
    exact (d.outcome_of_operationId models o hid true).trans
      (d.outcome_of_operationId models o hid false).symm

/-- Where ids are derived, nothing is left out for the lack of one. -/
theorem outcome_derived_ne (x : Declared) :
    d.outcome models { o with deriveMissingIds := true } x ≠ .error .missingOperationId := by
  intro h
  cases ((d.outcome_eq_missingOperationId models _).mp h).2

/-- Deriving ids keeps the methods of a walk and puts others between them. -/
theorem sublist_methods_derived (walk : List Declared) :
    List.Sublist
      (walk.filterMap fun x => (d.outcome models { o with deriveMissingIds := false } x).toOption)
      (walk.filterMap fun x => (d.outcome models { o with deriveMissingIds := true } x).toOption) := by
  refine sublist_filterMap fun x _ m hm => ?_
  have hok := toOption_eq_some.mp hm
  have hne : d.outcome models { o with deriveMissingIds := false } x
      ≠ .error .missingOperationId := by
    rw [hok]
    nofun
  rw [d.outcome_derived models o hne, hm]

/-- What is left out of a walk for another reason than the lack of an id is left out again. -/
theorem sublist_skipped_derived (walk : List Declared) :
    List.Sublist
      ((walk.filterMap fun x =>
        x.skipped? (d.outcome models { o with deriveMissingIds := false } x)).filter
          (·.reason ≠ .missingOperationId))
      (walk.filterMap fun x =>
        x.skipped? (d.outcome models { o with deriveMissingIds := true } x)) := by
  rw [List.filter_filterMap]
  refine sublist_filterMap fun x _ s hs => ?_
  obtain ⟨hs, hreason⟩ := Option.filter_eq_some_iff.mp hs
  have hne : d.outcome models { o with deriveMissingIds := false } x
      ≠ .error .missingOperationId := by
    intro hoff
    rw [hoff] at hs
    cases hs
    exact of_decide_eq_true hreason rfl
  rw [d.outcome_derived models o hne, hs]

/-- Nothing in a walk is left out for the lack of an id when ids are derived. -/
theorem reason_of_skipped_derived {walk : List Declared} {s : Skipped}
    (hs : s ∈ walk.filterMap fun x =>
      x.skipped? (d.outcome models { o with deriveMissingIds := true } x)) :
    s.reason ≠ .missingOperationId := by
  obtain ⟨x, -, hskipped⟩ := List.mem_filterMap.mp hs
  cases hon : d.outcome models { o with deriveMissingIds := true } x with
  | ok m =>
    rw [hon] at hskipped
    cases hskipped
  | error reason =>
    rw [hon] at hskipped
    cases hskipped
    intro heq
    exact d.outcome_derived_ne models o x (hon.trans (congrArg Except.error heq))

/-- **EACH OPTION CHANGES ONLY WHAT IT IS FOR.**  A document is compiled with two options.

When they differ in their aliases, the runs agree in everything but the names of methods.

When they differ in their generic credentials, the runs leave out, report and import the same, and
the methods agree, position by position, up to these credentials.

When ids are derived in the second run only, an operation with an id has the same outcome, one
without an id had been left out for the lack of it and is not any more; so every method of the first
run is a method of the second, and whatever was left out for another reason is left out again. -/
theorem compile_option_effects :
    (∀ aliases, EndAlike
      (fun out out' =>
        out.skipped = out'.skipped ∧ out.issues = out'.issues ∧ out.imports = out'.imports ∧
        out.methods.map Method.withoutName = out'.methods.map Method.withoutName)
      (d.compile models o) (d.compile models { o with aliases := aliases })) ∧
    (∀ fallback header, EndAlike
      (fun out out' =>
        out.skipped = out'.skipped ∧ out.issues = out'.issues ∧ out.imports = out'.imports ∧
        List.Forall₂ (d.AgreeUpToGeneric models o
          { o with legacyFallback := fallback, apiKeyHeader := header }) out.methods out'.methods)
      (d.compile models o)
      (d.compile models { o with legacyFallback := fallback, apiKeyHeader := header })) ∧
    (∀ x id, x.operation.operationId = some id →
      d.outcome models { o with deriveMissingIds := true } x
        = d.outcome models { o with deriveMissingIds := false } x) ∧
    (∀ x, x.operation.operationId = none →
      d.outcome models { o with deriveMissingIds := false } x = .error .missingOperationId ∧
      d.outcome models { o with deriveMissingIds := true } x ≠ .error .missingOperationId) ∧
    EndAlike
      (fun out out' =>
        out.methods.Sublist out'.methods ∧
        (out.skipped.filter (·.reason ≠ .missingOperationId)).Sublist out'.skipped ∧
        ∀ s ∈ out'.skipped, s.reason ≠ .missingOperationId)
      (d.compile models { o with deriveMissingIds := false })
      (d.compile models { o with deriveMissingIds := true }) := by
  refine ⟨fun aliases => ?_, fun fallback header => ?_, fun x id hid => ?_,
    fun x hid => ⟨?_, d.outcome_derived_ne models o x⟩, ?_⟩
  · refine endAlike_of_paths rfl fun ps _ => ?_
    have hagree : ∀ x ∈ ps.declared, (d.outcome models o x).map Method.withoutName
        = (d.outcome models { o with aliases := aliases } x).map Method.withoutName :=
      fun x _ => (d.map_withoutName_outcome models o aliases x).symm
    refine ⟨?_, ?_, ?_, ?_⟩
    · exact Compilation.skipped_ofOutcomes hagree _ _ _ _
    · exact Compilation.issues_ofOutcomes hagree _ _ _ Method.issues_withoutName
    · exact Compilation.imports_ofOutcomes_of_agree hagree _ _ _ (Method.imports_withoutName models)
    · exact Compilation.map_methods_ofOutcomes hagree _ _ _ _
  · refine endAlike_of_paths rfl fun ps hps => ?_
    let o' : Options := { o with legacyFallback := fallback, apiKeyHeader := header }
    have hagree : ∀ x ∈ ps.declared, (d.outcome models o x).map Method.withoutInstructions
        = (d.outcome models o' x).map Method.withoutInstructions :=
      fun x _ => (d.map_withoutInstructions_outcome models o fallback header x).symm
    refine ⟨?_, ?_, ?_, ?_⟩
    · exact Compilation.skipped_ofOutcomes hagree _ _ _ _
    · exact Compilation.issues_ofOutcomes hagree _ _ _ Method.issues_withoutInstructions
    · exact Compilation.imports_ofOutcomes_of_agree hagree _ _ _
        (Method.imports_withoutInstructions models)
    · exact Compilation.forall₂_methods_ofOutcomes
        (fun x hx => d.agreeUpToGeneric_of_outcome models o fallback header ⟨ps, hps, hx⟩) _ _ _ _
  · exact (d.outcome_of_operationId models o hid true).trans
      (d.outcome_of_operationId models o hid false).symm
  · exact (d.outcome_eq_missingOperationId models _).mpr ⟨hid, rfl⟩
  · refine endAlike_of_paths rfl fun ps _ => ⟨?_, ?_, ?_⟩
    · exact d.sublist_methods_derived models o ps.declared
    · exact d.sublist_skipped_derived models o ps.declared
    · exact fun s hs => d.reason_of_skipped_derived models o hs

end Run

/-- Anybody may browse, and the document does not say how; lending takes a card, and returning has no
    id. -/
def libraryPaths : Paths :=
  [("/books", { operations := [
    (.get, { operationId := some "browse" }),
    (.post, { operationId := some "lend", security := some [[("card", [])]] }),
    (.delete, {})] })]

/-- A document of these paths that knows the card. -/
def libraryDocument : Document where
  swagger := some "2.0"
  paths := some libraryPaths
  securityDefinitions := [("card",
    { type := .apiKey, name := some "X-Card", location := some .header })]

/-- Browsing goes by another name, and sends generic credentials. -/
def libraryOptions : Options := { aliases := [("browse", "look")], apiKeyHeader := "X-Key" }

/-- The three operations of this document with these options, without aliases, without generic
    credentials, and with derived ids. -/
theorem compile_option_effects_libraryDocument :
    ∃ out named closed derived,
      libraryDocument.compile .none libraryOptions = .ok out ∧
      libraryDocument.compile .none { libraryOptions with aliases := [] } = .ok named ∧
      libraryDocument.compile .none { libraryOptions with legacyFallback := false } = .ok closed ∧
      libraryDocument.compile .none { libraryOptions with deriveMissingIds := true }
        = .ok derived ∧
      out.methods.map (·.name.camel) = ["look", "lend"] ∧
      out.methods.map (·.auth.instructions) = [[.fallback "X-Key"], [.headerKey "card" "X-Card"]] ∧
      named.methods.map (·.name.camel) = ["browse", "lend"] ∧
      out.methods.map Method.withoutName = named.methods.map Method.withoutName ∧
      closed.methods.map (·.auth.instructions) = [[], [.headerKey "card" "X-Card"]] ∧
      List.Forall₂ (libraryDocument.AgreeUpToGeneric .none libraryOptions
        { libraryOptions with legacyFallback := false }) out.methods closed.methods ∧
      derived.methods.map (·.name.camel) = ["look", "lend", "deleteBooks"] ∧
      out.methods.Sublist derived.methods := by
  have hrun : ∀ o : Options, libraryDocument.compile .none o
      = .ok (.ofOutcomes .none libraryDocument.catalogIssues libraryPaths.declared
          (libraryDocument.outcome .none o)) :=
    fun o => compile_eq_ofOutcomes libraryDocument libraryPaths .none o rfl
  obtain ⟨haliases, hcredentials, -, -, hderived⟩ :=
    compile_option_effects libraryDocument .none libraryOptions
  have hnamed := haliases []
  have hclosed := hcredentials false "X-Key"
  rw [hrun, hrun] at hnamed hclosed hderived
  obtain ⟨-, -, -, hnames⟩ := hnamed
  obtain ⟨-, -, -, hgeneric⟩ := hclosed
  exact ⟨_, _, _, _, hrun _, hrun _, hrun _, hrun _, by decide +kernel, by decide +kernel,
    by decide +kernel, hnames, by decide +kernel, hgeneric, by decide +kernel, hderived.1⟩

end Document

end ApiMethods
