/-
  ApiMethods.Proofs.SkipRules
  ───────────────────────────
  **AN OPERATION IS LEFT OUT FOR THE FIRST RULE THAT IT BREAKS, AND ONLY THEN.**

  Eight rules decide whether an operation becomes a method, in this order:

    1. `named`         it has an id with an ASCII letter or digit, or ids may be derived,
    2. `resolved`      none of its parameters is a reference,
    3. `typed`         its merged parameters have types that their places admit,
    4. `bound`         the placeholders of its path are distinct, and they are the names of
                       its path parameters,
    5. `bodyKnown`     its request body is not a reference,
    6. `bodyAdmitted`  a body, in either form, comes with a verb that admits one,
    7. `bodyFilled`    a request body has content,
    8. `replyKnown`    the deciding response is not a reference.

  `Rule.Holds` says what a rule demands and `Rule.reason?` names what breaks it, both of the
  declaration alone.  `compile_by_rules` is the whole account of success and failure.
-/
import ApiMethods.Proofs.DecidingResponse
import ApiMethods.Proofs.Identifiers
import ApiMethods.Proofs.KnownTypes
import ApiMethods.Proofs.Merging
import ApiMethods.Proofs.PathBinding

namespace ApiMethods

open ApiMethods.Source (OrRef)
open Document (Operation Parameter PathItem RequestBody Responses)

/-! ## §1. The rules. -/

/-- What an operation has to satisfy to become a method. -/
inductive Rule
  | named
  | resolved
  | typed
  | bound
  | bodyKnown
  | bodyAdmitted
  | bodyFilled
  | replyKnown
deriving Repr, DecidableEq

/-- The rules in the order in which they are checked. -/
def Rule.order : List Rule :=
  [.named, .resolved, .typed, .bound, .bodyKnown, .bodyAdmitted, .bodyFilled, .replyKnown]

/-- The type that a parameter declares, if it declares one, be it with a schema or in the older form
    (`Parameter.effectiveSchema_eq_some_iff`). -/
def declaredType? (p : Parameter) : Option ValueType := p.effectiveSchema.map ValueType.ofSchema

theorem declaredType?_eq_none {p : Parameter} :
    declaredType? p = none ↔ p.schema = none ∧ p.type = none :=
  Option.map_eq_none_iff.trans Parameter.effectiveSchema_eq_none

/-- Whether a type is a simple one. -/
def ValueType.isPrimitive : ValueType → Bool
  | .primitive _ => true
  | _ => false

/-- Whether a parameter can be typed in a place: in a path its type is simple and it is not declared
    optional, elsewhere it may be an array or an object as well. -/
def Typeable (location : Location) (p : Parameter) : Prop :=
  ∃ t, declaredType? p = some t ∧
    if location = .path then p.required ≠ some false ∧ t.isPrimitive
    else t.isPrimitive ∨ t.isComposite

/-- Why a parameter cannot be typed in a place. -/
def typeFault? (location : Location) (p : Parameter) : Option SkipReason :=
  match declaredType? p with
  | none => some <| if location = .path then .pathParameterWithoutSchema p.name
      else .unresolvedParameterType p.name location
  | some t =>
    if location = .path then
      if p.required = some false then some (.pathParameterNotRequired p.name)
      else if t.isPrimitive then none else some (.unresolvedPathParameterType p.name)
    else if t.isPrimitive || t.isComposite then none
    else some (.unresolvedParameterType p.name location)

/-- A parameter is refused in a place, and the reason says why: it has neither a schema nor a type of
    its own, or it is optional in a path, or what it declares is not of a kind for the place. -/
inductive Refused (p : Parameter) : Location → SkipReason → Prop
  | untypedInPath : p.schema = none → p.type = none →
      Refused p .path (.pathParameterWithoutSchema p.name)
  | optionalInPath {t : ValueType} : declaredType? p = some t → p.required = some false →
      Refused p .path (.pathParameterNotRequired p.name)
  | notSimpleInPath {t : ValueType} : declaredType? p = some t → p.required ≠ some false →
      t.isPrimitive = false → Refused p .path (.unresolvedPathParameterType p.name)
  | untyped {location : Location} : location ≠ .path → p.schema = none → p.type = none →
      Refused p location (.unresolvedParameterType p.name location)
  | unknown {location : Location} {t : ValueType} : location ≠ .path → declaredType? p = some t →
      t.isPrimitive = false → t.isComposite = false →
      Refused p location (.unresolvedParameterType p.name location)

namespace Declared

/-- The names of the path parameters of an operation. -/
def pathNames (x : Declared) : List String := Argument.namesIn .path x.merged

/-- Whether an operation declares a body, in either form. -/
def hasBody (x : Declared) : Bool := x.operation.requestBody.isSome || x.olderBody?.isSome

/-- The response that decides on the answer of an operation. -/
def decider? (x : Declared) : Option (OrRef Document.Response) :=
  Reply.decidingCodes.findSome? x.operation.responses.get?

end Declared

namespace Rule

/-- What a rule demands of an operation. -/
def Holds (o : Options) (x : Declared) : Rule → Prop
  | named => match x.operation.operationId with
    | some id => ∃ c ∈ id.toList, c.isAlphanum
    | none => o.deriveMissingIds
  | resolved => ∀ target, OrRef.ref target ∉ x.declarations
  | typed => ∀ e ∈ x.merged, Typeable e.1.2 e.2
  | bound => (Path.placeholders x.path).Nodup ∧
      ∀ name, name ∈ Path.placeholders x.path ↔ name ∈ x.pathNames
  | bodyKnown => ∀ target, x.operation.requestBody ≠ some (.ref target)
  | bodyAdmitted => x.hasBody → x.verb.acceptsBody
  | bodyFilled => ∀ b, x.operation.requestBody = some (.inline b) → b.content ≠ []
  | replyKnown => ∀ target, x.decider? ≠ some (.ref target)

/-- What a rule names as the reason when an operation breaks it: the first declaration, parameter or
    placeholder that does. -/
def reason? (o : Options) (x : Declared) : Rule → Option SkipReason
  | named => match x.operation.operationId with
    | some id => if id.toList.any Char.isAlphanum then none else some (.invalidOperationId id)
    | none => if o.deriveMissingIds then none else some .missingOperationId
  | resolved => x.declarations.findSome? fun p => p.target?.map .unresolvedReference
  | typed => x.merged.findSome? fun e => typeFault? e.1.2 e.2
  | bound => (Path.slotFault? (Path.placeholders x.path) x.pathNames).or
      (Path.unusedFault? (Path.placeholders x.path) x.pathNames)
  | bodyKnown => (x.operation.requestBody.bind OrRef.target?).map .unresolvedReference
  | bodyAdmitted =>
    if x.hasBody && !x.verb.acceptsBody then some (.requestBodyNotAllowed x.verb) else none
  | bodyFilled => match x.operation.requestBody with
    | some (.inline b) => if b.content = [] then some (.missingRequestBody x.verb) else none
    | _ => none
  | replyKnown => (x.decider?.bind OrRef.target?).map .unresolvedReference

end Rule

/-! ## §2. Where each stage stops. -/

namespace ValueType

/-- What a schema means is simple or composite, or else it is not known at all: so the tests of the
    compiler are tests for a simple type. -/
theorem isPrimitive_ofSchema {s : Document.Schema} {t : ValueType} (h : ofSchema s = t) :
    (t.isComposite || t.isResolved) = (t.isPrimitive || t.isComposite) ∧
    (t.isComposite || !t.isResolved) = !t.isPrimitive := by
  have hne := ofSchema_ne s
  cases t with
  | primitive p => exact ⟨rfl, rfl⟩
  | array u => exact ⟨rfl, rfl⟩
  | object ps => exact ⟨rfl, rfl⟩
  | ref target => exact ⟨rfl, rfl⟩
  | unresolved => exact ⟨rfl, rfl⟩
  | model name => exact absurd h (hne.2 name)
  | any => exact absurd h hne.1

theorem degrade_of_isPrimitive {t : ValueType} (h : t.isPrimitive = true) : t.degrade = t := by
  cases t with
  | primitive p => rfl
  | array _ | object _ | ref _ | model _ | any | unresolved => cases h

end ValueType

namespace Argument

/-- **THE TYPE OF A PARAMETER**: unless something is wrong with it, the declared one with its unknown
parts degraded. -/
theorem typeOf_eq (p : Parameter) (location : Location) :
    typeOf p location = match typeFault? location p with
      | some reason => .error reason
      | none => .ok ((declaredType? p).getD .unresolved).degrade := by
  unfold typeOf typeFault? declaredType?
  by_cases hpath : location = .path
  · rw [if_pos hpath]
    unfold pathType
    cases hs : p.effectiveSchema with
    | none => simp [hpath]
    | some s =>
      by_cases hreq : p.required = some false
      · simp [hpath, hreq]
      · have hprim := (ValueType.isPrimitive_ofSchema (s := s) rfl).2
        cases hp : (ValueType.ofSchema s).isPrimitive with
        | true => simp [hpath, hreq, hp, hprim, ValueType.degrade_of_isPrimitive hp]
        | false => simp [hpath, hreq, hp, hprim]
  · rw [if_neg hpath]
    unfold otherType
    cases hs : p.effectiveSchema with
    | none => simp [hpath, ValueType.isComposite, ValueType.isResolved]
    | some s =>
      have hknown := (ValueType.isPrimitive_ofSchema (s := s) rfl).1
      simp only [Option.map_some, Option.getD_some, hpath, if_false]
      rw [← hknown]
      cases hc : (ValueType.ofSchema s).isComposite with
      | true => simp
      | false =>
        -- what is resolved and has no parts is simple
        rw [hc, Bool.false_or, Bool.or_false] at hknown
        cases hr : (ValueType.ofSchema s).isResolved with
        | true => simp [ValueType.degrade_of_isPrimitive (hknown.symm.trans hr)]
        | false => simp

theorem fault?_typeOf (p : Parameter) (location : Location) :
    fault? (typeOf p location) = typeFault? location p := by
  rw [typeOf_eq]
  cases typeFault? location p <;> rfl

/-- **A PARAMETER CAN BE TYPED WHEN NOTHING IS WRONG WITH IT**, and only then. -/
theorem typeFault?_eq_none {p : Parameter} {location : Location} :
    typeFault? location p = none ↔ Typeable location p := by
  unfold typeFault? Typeable
  cases declaredType? p with
  | none => simp
  | some t =>
    simp only [Option.some.injEq, exists_eq_left']
    by_cases hpath : location = .path
    · by_cases hreq : p.required = some false <;> simp [hpath, hreq]
    · cases t.isPrimitive <;> simp [hpath]

/-- **WHAT IS WRONG WITH A PARAMETER IS WHY IT IS REFUSED.** -/
theorem typeFault?_eq_some_iff {p : Parameter} {location : Location} {reason : SkipReason} :
    typeFault? location p = some reason ↔ Refused p location reason := by
  constructor
  · intro h
    unfold typeFault? at h
    -- the place decides which reason is given, once it is known whether there is a type at all
    cases ht : declaredType? p with
    | none =>
      obtain ⟨hschema, htype⟩ := declaredType?_eq_none.mp ht
      rw [ht] at h
      by_cases hpath : location = .path
      · subst hpath
        cases h
        exact .untypedInPath hschema htype
      · rw [if_neg hpath] at h
        cases h
        exact .untyped hpath hschema htype
    | some t =>
      rw [ht] at h
      dsimp only at h
      by_cases hpath : location = .path
      · subst hpath
        rw [if_pos rfl] at h
        by_cases hrequired : p.required = some false
        · rw [if_pos hrequired] at h
          cases h
          exact .optionalInPath ht hrequired
        · rw [if_neg hrequired] at h
          split at h <;> cases h
          rename_i hprimitive
          exact .notSimpleInPath ht hrequired (Bool.eq_false_iff.mpr hprimitive)
      · rw [if_neg hpath] at h
        split at h <;> cases h
        rename_i hkind
        obtain ⟨hprimitive, hcomposite⟩ := Bool.or_eq_false_iff.mp (Bool.eq_false_iff.mpr hkind)
        exact .unknown hpath ht hprimitive hcomposite
  · intro h
    unfold typeFault?
    cases h with
    | untypedInPath hschema htype => rw [declaredType?_eq_none.mpr ⟨hschema, htype⟩, if_pos rfl]
    | optionalInPath ht hrequired => simp [ht, hrequired]
    | notSimpleInPath ht hrequired hprimitive => simp [ht, hrequired, hprimitive]
    | untyped hpath hschema htype => rw [declaredType?_eq_none.mpr ⟨hschema, htype⟩, if_neg hpath]
    | unknown hpath ht hprimitive hcomposite => simp [ht, hpath, hprimitive, hcomposite]

/-- A parameter is typed when it can be, as what it declares, degraded. -/
theorem typeOf_eq_ok_iff {p : Parameter} {location : Location} {t : ValueType} :
    typeOf p location = .ok t ↔
      Typeable location p ∧ ((declaredType? p).getD .unresolved).degrade = t := by
  rw [typeOf_eq, ← typeFault?_eq_none]
  cases typeFault? location p with
  | none => exact (Except.ok.injEq _ _).to_iff.trans (and_iff_right rfl).symm
  | some reason => exact iff_of_false nofun (fun h => nomatch h.1)

/-- A parameter that can be typed has a schema, and its type is what this means, degraded. -/
theorem exists_of_typeOf {p : Parameter} {location : Location} {t : ValueType}
    (h : typeOf p location = .ok t) :
    ∃ s, p.effectiveSchema = some s ∧ t = (ValueType.ofSchema s).degrade := by
  obtain ⟨⟨t, ht, -⟩, rfl⟩ := typeOf_eq_ok_iff.mp h
  obtain ⟨s, hs, rfl⟩ := Option.map_eq_some_iff.mp ht
  exact ⟨s, hs, by rw [ht, Option.getD_some]⟩

end Argument

namespace Body

/-- A body has a plan when it has content. -/
theorem plan_eq_none (m : Models) (b : RequestBody) : plan m b = none ↔ b.content = [] := by
  have hranked : ranked b.content = [] ↔ b.content = [] := by
    rw [← List.length_eq_zero_iff, ranked, List.length_mergeSort, List.length_eq_zero_iff]
    exact List.map_eq_nil_iff
  rw [← hranked]
  unfold plan negotiate
  cases ranked b.content with
  | nil => exact iff_of_true rfl rfl
  | cons selected rest => simp

end Body

namespace Method

theorem fault?_identifierOf (o : Options) (x : Declared) :
    fault? (identifierOf o x.path x.verb x.operation) = Rule.named.reason? o x := by
  unfold identifierOf Rule.reason?
  cases x.operation.operationId with
  | none => cases o.deriveMissingIds <;> rfl
  | some id =>
    cases hid : Name.identifier? id with
    | none => simp [hid, Name.identifier?_eq_none.mp hid, fault?]
    | some s =>
      -- an identifier came out, so there was something to make it from
      have hany : id.toList.any Char.isAlphanum = true := by
        by_contra hne
        rw [Name.identifier?_eq_none.mpr (by simpa using hne)] at hid
        cases hid
      simp only [hid, hany, if_true, fault?]

/-- A body in the older form has content. -/
theorem content_bodyOfParameter_ne_nil (document : List String) (op : Operation) (p : Parameter) :
    (bodyOfParameter (consumed document op) p).content ≠ [] := by
  have hconsumed : consumed document op ≠ [] := by
    unfold consumed
    split
    · simp_all
    · split <;> simp_all
  obtain ⟨mediaType, rest, heq⟩ := List.exists_cons_of_ne_nil hconsumed
  -- writing the first media type leaves an entry, and writing the others keeps it
  have hkey : mediaType ∈ (bodyOfParameter (consumed document op) p).content.keys := by
    rw [heq]
    exact Table.mem_keys_ofEntries.mpr (by simp)
  intro hnil
  rw [hnil] at hkey
  cases hkey

theorem fault?_requestBody (consumes : List String) (op : Operation) (older : Option Parameter) :
    fault? (requestBody consumes op older)
      = (op.requestBody.bind OrRef.target?).map .unresolvedReference := by
  unfold requestBody
  rcases op.requestBody with _ | (_ | _) <;> rfl

/-- A body is refused for the verb first, and then for its content. -/
theorem fault?_bodyPlan {c : Context} {x : Declared} {b : Option RequestBody}
    (h : requestBody c.consumes x.operation x.olderBody? = .ok b) :
    fault? (bodyPlan c.models x.verb b)
      = (Rule.bodyAdmitted.reason? c.options x).or (Rule.bodyFilled.reason? c.options x) := by
  have hplan : ∀ b : RequestBody, fault? (bodyPlan c.models x.verb (some b)) =
      (if !x.verb.acceptsBody then some (.requestBodyNotAllowed x.verb) else none).or
        (if b.content = [] then some (SkipReason.missingRequestBody x.verb) else none) := by
    intro b
    unfold bodyPlan
    cases x.verb.acceptsBody with
    | false => rfl
    | true =>
      cases hp : Body.plan c.models b with
      | none => simp [hp, (Body.plan_eq_none _ _).mp hp, fault?]
      | some p =>
        have hne : b.content ≠ [] := fun hb => by
          rw [(Body.plan_eq_none _ _).mpr hb] at hp
          cases hp
        simp [hp, hne, fault?]
  unfold requestBody at h
  unfold Rule.reason? Declared.hasBody
  -- a declared body hides one in the older form, and only the declared one may lack content
  cases hdeclared : x.operation.requestBody with
  | some r =>
    rw [hdeclared] at h
    cases r with
    | ref target => cases h
    | inline r =>
      cases h
      rw [hplan]
      simp
  | none =>
    rw [hdeclared] at h
    cases h
    cases holder : x.olderBody? with
    | none => rfl
    | some p =>
      rw [Option.map_some, hplan, if_neg (content_bodyOfParameter_ne_nil _ _ _)]
      simp

end Method

namespace Reply

/-- The deciding response is the one under the first of the deciding codes that is declared. -/
theorem select?_map_snd (rs : Responses) :
    (select? rs).map (·.2) = decidingCodes.findSome? rs.get? := by
  rw [select?_eq_findSome?, List.map_findSome?]
  refine congrArg (decidingCodes.findSome? ·) (funext fun code => ?_)
  show ((rs.get? code).map _).map _ = rs.get? code
  rw [Option.map_map]
  exact Option.map_id'

theorem fault?_classify (m : Models) (x : Declared) :
    fault? (classify m x.operation.responses)
      = (x.decider?.bind OrRef.target?).map .unresolvedReference := by
  rw [Declared.decider?, ← select?_map_snd, classify_eq, fault?_map]
  unfold answer
  rcases select? x.operation.responses with _ | ⟨code, target | response⟩ <;> rfl

end Reply

/-! ## §3. The rules together. -/

namespace Rule

/-- **A RULE HOLDS WHEN IT NAMES NO REASON**, and only then. -/
theorem reason?_eq_none (o : Options) (x : Declared) (rule : Rule) :
    rule.reason? o x = none ↔ rule.Holds o x := by
  cases rule with
  | named =>
    unfold reason? Holds
    cases x.operation.operationId with
    | none => simp
    | some id => simp [List.any_eq_true]
  | resolved =>
    unfold reason? Holds
    rw [List.findSome?_eq_none_iff]
    constructor
    · intro h target hmem
      exact absurd (h _ hmem) nofun
    · rintro h (target | p) hmem
      · exact absurd hmem (h target)
      · rfl
  | typed =>
    unfold reason? Holds
    rw [List.findSome?_eq_none_iff]
    exact forall₂_congr fun e _ => Argument.typeFault?_eq_none
  | bound =>
    unfold reason? Holds
    rw [Option.or_eq_none_iff, Path.slotFault?_eq_none, Path.unusedFault?_eq_none, and_assoc]
    exact and_congr_right fun _ =>
      ⟨fun h name => ⟨h.1 name, h.2 name⟩, fun h => ⟨fun n => (h n).mp, fun n => (h n).mpr⟩⟩
  | bodyKnown =>
    unfold reason? Holds
    rcases x.operation.requestBody with _ | (_ | _) <;> simp [OrRef.target?]
  | bodyAdmitted =>
    unfold reason? Holds
    cases x.hasBody <;> cases x.verb.acceptsBody <;> simp
  | bodyFilled =>
    unfold reason? Holds
    rcases x.operation.requestBody with _ | (_ | _) <;> simp
  | replyKnown =>
    unfold reason? Holds
    rcases x.decider? with _ | (_ | _) <;> simp [OrRef.target?]

theorem mem_order (rule : Rule) : rule ∈ order := by cases rule <;> decide

end Rule

namespace Declared

/-- **Run of the stages**: the fault of a compilation is what the first broken rule names. -/
theorem fault?_compile (c : Method.Context) (x : Declared) :
    fault? (x.compile c) = Rule.order.findSome? (Rule.reason? c.options x) := by
  have hstages : fault? (x.compile c) =
      (Rule.named.reason? c.options x).or ((Rule.resolved.reason? c.options x).or
        ((Rule.typed.reason? c.options x).or ((Rule.bound.reason? c.options x).or
          ((Rule.bodyKnown.reason? c.options x).or
            (((Rule.bodyAdmitted.reason? c.options x).or
              (Rule.bodyFilled.reason? c.options x)).or
                ((Rule.replyKnown.reason? c.options x).or none)))))) := by
    unfold compile Method.compile
    refine fault?_bind (Method.fault?_identifierOf c.options x) fun id _ => ?_
    refine fault?_bind (Argument.Merged.fault?_of x) fun merged hmerged => ?_
    -- from here on what was merged is known, and with it the names of the arguments
    cases Argument.Merged.of_eq_ok hmerged
    refine fault?_bind ?_ fun args hargs => ?_
    · rw [Argument.fault?_buildAll]
      simp only [Argument.fault?_typeOf]
      rfl
    have hnames : args.path.map (·.name) = x.pathNames :=
      Argument.map_name_inLocation hargs .path
    refine fault?_bind ?_ fun template _ => ?_
    · rw [Path.fault?_template, hnames]
      rfl
    refine fault?_bind (Method.fault?_requestBody _ _ _) fun declared hdeclared => ?_
    refine fault?_bind (Method.fault?_bodyPlan hdeclared) fun body _ => ?_
    exact fault?_bind (Reply.fault?_classify _ _) fun reply _ => rfl
  have hcons : ∀ (rule : Rule) (rest : List Rule),
      (rule :: rest).findSome? (Rule.reason? c.options x)
        = (rule.reason? c.options x).or (rest.findSome? (Rule.reason? c.options x)) := by
    intro rule rest
    rw [List.findSome?_cons]
    cases rule.reason? c.options x <;> rfl
  rw [hstages]
  simp only [Rule.order, hcons, List.findSome?_nil, Option.or_assoc]

end Declared

namespace Method

/-- **THE RULES DECIDE.**  An operation becomes a method exactly when all rules hold, and is left out
for a reason exactly when this is what the first broken rule names. -/
theorem compile_by_rules (c : Context) (path : String) (item : PathItem) (verb : Verb)
    (op : Operation) :
    let x : Declared := ⟨path, item.parameters, verb, op⟩
    ((∃ m, compile c path item verb op = .ok m) ↔ ∀ rule : Rule, rule.Holds c.options x) ∧
    ∀ reason, compile c path item verb op = .error reason ↔
      ∃ before rule after, Rule.order = before ++ rule :: after ∧
        (∀ earlier ∈ before, earlier.Holds c.options x) ∧
        ¬ rule.Holds c.options x ∧ rule.reason? c.options x = some reason := by
  intro x
  have hfault : fault? (compile c path item verb op)
      = Rule.order.findSome? (Rule.reason? c.options x) := Declared.fault?_compile c x
  constructor
  · rw [← fault?_eq_none, hfault, List.findSome?_eq_none_iff]
    exact ⟨fun h rule => (Rule.reason?_eq_none _ _ _).mp (h rule rule.mem_order),
      fun h rule _ => (Rule.reason?_eq_none _ _ _).mpr (h rule)⟩
  · intro reason
    rw [← fault?_eq_some, hfault, List.findSome?_eq_some_iff]
    constructor
    · rintro ⟨before, rule, after, horder, hrule, hbefore⟩
      refine ⟨before, rule, after, horder, fun earlier hmem => ?_, fun hholds => ?_, hrule⟩
      · exact (Rule.reason?_eq_none _ _ _).mp (hbefore earlier hmem)
      · rw [(Rule.reason?_eq_none _ _ _).mpr hholds] at hrule
        cases hrule
    · rintro ⟨before, rule, after, horder, hbefore, -, hrule⟩
      exact ⟨before, rule, after, horder, hrule, fun earlier hmem =>
        (Rule.reason?_eq_none _ _ _).mpr (hbefore earlier hmem)⟩

end Method

end ApiMethods
