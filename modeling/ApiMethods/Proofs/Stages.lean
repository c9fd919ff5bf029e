/-
  ApiMethods.Proofs.Stages
  ────────────────────────
  **A COMPILATION IN STAGES, AND WHERE IT STOPS.**

  An operation is compiled in stages, and the first stage that fails decides the reason.  The
  FAULT of an outcome is its error, if it has one.  The lemmas of §1 say what the fault of a
  composed stage is, so that nothing later opens a bind or a traversal again:

    • `fault?_bind`: the fault of the first part, or else that of the second,
    • `fault?_map`: what is made of a result does not matter,
    • `fault?_mapM`: of a traversal, the first fault of an element.

  `Declared.stages_of_compile` goes the other way: a method comes from stages all of which
  succeeded.
-/
import ApiMethods.Proofs.Walk

namespace ApiMethods

/-! ## §1. Faults. -/

section Fault

variable {ε α β γ δ : Type}

/-- The error of an outcome, if it is one. -/
def fault? : Except ε α → Option ε
  | .ok _ => none
  | .error e => some e

theorem fault?_eq_none {w : Except ε α} : fault? w = none ↔ ∃ a, w = .ok a := by
  cases w <;> simp [fault?]

theorem fault?_eq_some {w : Except ε α} {e : ε} : fault? w = some e ↔ w = .error e := by
  cases w <;> simp [fault?]

theorem toOption_eq_some {w : Except ε α} {a : α} : w.toOption = some a ↔ w = .ok a := by
  cases w <;> simp [Except.toOption]

/-- The fault of two stages: that of the first, or else that of the second, which may rely on what
    the first has yielded. -/
theorem fault?_bind {w : Except ε α} {f : α → Except ε β} {first rest : Option ε}
    (hw : fault? w = first) (hf : ∀ a, w = .ok a → fault? (f a) = rest) :
    fault? (w >>= f) = first.or rest := by
  subst hw
  cases w with
  | error e => rfl
  | ok a => exact hf a rfl

theorem fault?_map (f : α → β) (w : Except ε α) : fault? (w.map f) = fault? w := by
  cases w <;> rfl

/-- The fault of a traversal is the first fault of an element. -/
theorem fault?_mapM (f : α → Except ε β) (l : List α) :
    fault? (l.mapM f) = l.findSome? fun a => fault? (f a) := by
  induction l with
  | nil => rfl
  | cons a rest ih =>
    rw [List.mapM_cons, List.findSome?_cons]
    cases ha : f a with
    | error e => rfl
    | ok b =>
      -- the head has succeeded, so the fault is that of the tail
      have htail : fault? (rest.mapM f >>= fun bs => pure (b :: bs))
          = (rest.findSome? fun a => fault? (f a)).or none := fault?_bind ih fun _ _ => rfl
      rw [Option.or_none] at htail
      exact htail

/-! What succeeds comes from parts that have succeeded. -/

theorem bind_eq_ok {w : Except ε α} {f : α → Except ε β} {b : β} (h : w >>= f = .ok b) :
    ∃ a, w = .ok a ∧ f a = .ok b := by
  cases w with
  | error e => cases h
  | ok a => exact ⟨a, rfl, h⟩

theorem map_eq_ok {w : Except ε α} {f : α → β} {b : β} (h : w.map f = .ok b) :
    ∃ a, w = .ok a ∧ f a = b := by
  cases w with
  | error e => cases h
  | ok a =>
    cases h
    exact ⟨a, rfl, rfl⟩

/-- The elements of a traversal that succeeds have succeeded one by one. -/
theorem forall₂_of_mapM {f : α → Except ε β} {l : List α} {out : List β}
    (h : l.mapM f = .ok out) : List.Forall₂ (fun a b => f a = .ok b) l out := by
  induction l generalizing out with
  | nil =>
    cases h
    exact .nil
  | cons a rest ih =>
    rw [List.mapM_cons] at h
    obtain ⟨b, ha, h⟩ := bind_eq_ok h
    obtain ⟨bs, hrest, h⟩ := bind_eq_ok h
    cases h
    exact .cons ha (ih hrest)

/-- What a traversal yields was yielded by one of its elements. -/
theorem exists_of_mem_mapM {f : α → Except ε β} {l : List α} {out : List β}
    (h : l.mapM f = .ok out) {b : β} (hb : b ∈ out) : ∃ a ∈ l, f a = .ok b := by
  have hall := forall₂_of_mapM h
  clear h
  induction hall with
  | nil => cases hb
  | cons hhead _ ih =>
    rcases List.mem_cons.mp hb with rfl | hb
    · exact ⟨_, List.mem_cons_self, hhead⟩
    · obtain ⟨a, ha, hok⟩ := ih hb
      exact ⟨a, List.mem_cons_of_mem _ ha, hok⟩

/-- A traversal yields what its elements yield. -/
theorem mapM_eq_ok {f : α → Except ε β} {g : α → β} {l : List α} (h : ∀ a ∈ l, f a = .ok (g a)) :
    l.mapM f = .ok (l.map g) := by
  induction l with
  | nil => rfl
  | cons a rest ih =>
    rw [List.mapM_cons, h a List.mem_cons_self, ih fun b hb => h b (List.mem_cons_of_mem _ hb)]
    rfl

theorem eq_map_of_mapM {f : α → Except ε β} {g : α → β} {l : List α} {out : List β}
    (h : l.mapM f = .ok out) (hg : ∀ a ∈ l, ∀ b, f a = .ok b → b = g a) : out = l.map g := by
  induction l generalizing out with
  | nil =>
    cases h
    rfl
  | cons a rest ih =>
    rw [List.mapM_cons] at h
    obtain ⟨b, ha, h⟩ := bind_eq_ok h
    obtain ⟨bs, hrest, h⟩ := bind_eq_ok h
    cases h
    rw [hg a List.mem_cons_self b ha, ih hrest fun a ha => hg a (List.mem_cons_of_mem _ ha)]
    rfl

/-! Two computations that go through the same stages agree up to what is left out at the end. -/

theorem bind_congr_ok {w : Except ε α} {f f' : α → Except ε β}
    (h : ∀ a, w = .ok a → f a = f' a) : (w >>= f) = (w >>= f') := by
  cases w with
  | error e => rfl
  | ok a => exact h a rfl

/-- One stage agrees up to what is read off its result, and what comes behind it reads no more. -/
theorem bind_agree_ok {w w' : Except ε α} {f f' : α → Except ε β} {e : α → δ}
    (hw : w.map e = w'.map e)
    (hf : ∀ a a', w = .ok a → w' = .ok a' → e a = e a' → f a = f' a') :
    (w >>= f) = (w' >>= f') := by
  cases w with
  | error reason =>
    cases w' with
    | error reason' =>
      cases hw
      rfl
    | ok a' => cases hw
  | ok a =>
    cases w' with
    | error reason' => cases hw
    | ok a' => exact hf a a' rfl rfl (Except.ok.inj hw)

/-- One stage is the same in both computations. -/
theorem map_bind_congr {w : Except ε α} {f f' : α → Except ε β} {g : β → γ}
    (h : ∀ a, (f a).map g = (f' a).map g) : (w >>= f).map g = (w >>= f').map g := by
  cases w with
  | error e => rfl
  | ok a => exact h a

/-- One stage agrees up to what is left out of its result, and what comes behind it does not see
    the difference. -/
theorem map_bind_agree {w w' : Except ε α} {f f' : α → Except ε β} {e : α → δ} {g : β → γ}
    (hw : w.map e = w'.map e) (hf : ∀ a a', e a = e a' → (f a).map g = (f' a').map g) :
    (w >>= f).map g = (w' >>= f').map g := by
  cases w with
  | error reason =>
    cases w' with
    | error reason' =>
      cases hw
      rfl
    | ok a' => cases hw
  | ok a =>
    cases w' with
    | error reason' => cases hw
    | ok a' => exact hf a a' (Except.ok.inj hw)

end Fault

/-! ## §2. The stages behind a method. -/

namespace Declared

open Method (identifierOf nameOf requestBody bodyPlan authPlan)

/-- What the stages of a compilation have yielded on the way to a method. -/
structure Stages (c : Method.Context) (x : Declared) (m : Method) (merged : Argument.Merged)
    (body : Option Document.RequestBody) : Prop where
  identifier : identifierOf c.options x.path x.verb x.operation = .ok m.operationId
  merging : Argument.Merged.of x.shared x.operation.parameters = .ok merged
  building : Argument.buildAll merged = .ok m.arguments
  binding : Path.template x.path m.arguments.path = .ok m.path
  declaring : requestBody c.consumes x.operation merged.body = .ok body
  planning : bodyPlan c.models x.verb body = .ok m.body
  classifying : Reply.classify c.models x.operation.responses = .ok m.reply

/-- **A METHOD COMES FROM STAGES THAT SUCCEEDED**, and apart from what they yielded it repeats the
declaration. -/
theorem stages_of_compile {c : Method.Context} {x : Declared} {m : Method}
    (h : x.compile c = .ok m) :
    (∃ merged body, Stages c x m merged body) ∧
    m.name = nameOf c.options m.operationId ∧
    m.verb = x.verb ∧
    m.auth = authPlan c x.operation m.arguments ∧
    m.paginated = m.arguments.isPaginated ∧
    m.summary = x.operation.summary ∧
    m.description = x.operation.description ∧
    m.tags = x.operation.tags ∧
    m.deprecated = x.operation.deprecated.getD false := by
  obtain ⟨id, hid, h⟩ := bind_eq_ok h
  obtain ⟨merged, hmerged, h⟩ := bind_eq_ok h
  obtain ⟨args, hargs, h⟩ := bind_eq_ok h
  obtain ⟨template, htemplate, h⟩ := bind_eq_ok h
  obtain ⟨declared, hdeclared, h⟩ := bind_eq_ok h
  obtain ⟨body, hbody, h⟩ := bind_eq_ok h
  obtain ⟨reply, hreply, h⟩ := bind_eq_ok h
  cases h
  exact ⟨⟨merged, declared, hid, hmerged, hargs, htemplate, hdeclared, hbody, hreply⟩,
    rfl, rfl, rfl, rfl, rfl, rfl, rfl, rfl⟩

end Declared

/-- A body that a method has comes from a plan. -/
theorem Method.plan_of_bodyPlan {models : Models} {verb : Verb} {b : Option Document.RequestBody}
    {p : Body.Plan} (h : bodyPlan models verb b = .ok (some p)) :
    ∃ r, b = some r ∧ Body.plan models r = some p := by
  unfold bodyPlan at h
  split at h
  · cases h
  · rename_i r
    split at h
    · cases h
    · split at h
      · rename_i hplan
        cases h
        exact ⟨r, rfl, hplan⟩
      · cases h

end ApiMethods
