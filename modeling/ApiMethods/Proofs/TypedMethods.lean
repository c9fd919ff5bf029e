/-
  ApiMethods.Proofs.TypedMethods
  ──────────────────────────────
  **WHICH TYPES OF A METHOD ARE KNOWN.**

  Types reach a method on four ways: from its parameters, from a request body that is no
  model, from the body of its answer, and from the headers that come with the answer.  On the
  first three, what is unknown either leaves the operation out or is degraded, at any depth.

  On the fourth it is degraded on top only: the type of a header is a text when the schema of
  the header means nothing known, but an array or an object is taken over with all its parts.
  So the headers are known unless one of them HIDES an unknown part in an array or an object
  (`HidesUnknown`), and `known_types_of_compile` says that nothing else can be unknown.
-/
import ApiMethods.Proofs.Answers
import ApiMethods.Proofs.ReplyHeaders
import ApiMethods.Proofs.SkipRules

namespace ApiMethods

open Document (Header Parameter RequestBody Schema)

/-! ## §1. Arguments. -/

namespace Argument

theorem known_of_typeOf {p : Parameter} {location : Location} {t : ValueType}
    (h : typeOf p location = .ok t) : t.Known := by
  obtain ⟨s, -, rfl⟩ := exists_of_typeOf h
  exact ValueType.known_degrade _

/-- Every argument is built from a parameter. -/
theorem exists_build_of_mem_toList {m : Merged} {args : Arguments} (h : buildAll m = .ok args) :
    ∀ a ∈ args.toList, ∃ e : Key × Parameter, build e.2 e.1.2 = .ok a := by
  obtain ⟨l, hl, rfl⟩ := map_eq_ok h
  intro a ha
  have hmem : a ∈ l := by
    simp only [Arguments.toList, Arguments.ofList, List.mem_append, List.mem_filter] at ha
    rcases ha with ((ha | ha) | ha) | ha <;> exact ha.1
  obtain ⟨e, -, he⟩ := exists_of_mem_mapM hl hmem
  exact ⟨e, he⟩

/-- **THE TYPE OF EVERY ARGUMENT IS KNOWN.** -/
theorem known_of_buildAll {m : Merged} {args : Arguments} (h : buildAll m = .ok args) :
    ∀ a ∈ args.toList, a.type.Known := by
  intro a ha
  obtain ⟨e, he⟩ := exists_build_of_mem_toList h a ha
  exact known_of_typeOf (of_build he).2.2

end Argument

/-! ## §2. Bodies. -/

namespace ValueType

theorem known_generic (s : Schema) : (generic s).Known := known_degrade _

end ValueType

namespace Body

theorem modelPayload?_ne_generic (m : Models) (s : Option Schema) (t : ValueType) :
    modelPayload? m s ≠ some (.generic t) := by
  intro h
  obtain ⟨found, -, hfound⟩ := Option.bind_eq_some_iff.mp h
  cases hfound

theorem eq_of_structured {m : Models} {s : Option Schema} {t : ValueType}
    (h : (structured m s).1 = .generic t) : t = (s.map ValueType.generic).getD .any := by
  unfold structured at h
  split at h
  · rename_i p hp
    cases h
    exact absurd hp (modelPayload?_ne_generic m s t)
  · cases h
    rfl

/-- **THE TYPE OF A GENERIC PAYLOAD IS THAT OF ITS SCHEMA**, degraded. -/
theorem eq_of_encode {m : Models} {s : Option Schema} {k : Kind} {t : ValueType}
    (h : (encode m s k).1 = .generic t) : t = (s.map ValueType.generic).getD .any := by
  cases k with
  | json => exact eq_of_structured h
  | xml =>
    simp only [encode] at h
    split at h
    · cases h
    · exact eq_of_structured h
  | other =>
    simp only [encode, modelOrText] at h
    split at h
    · rename_i q hq
      cases h
      exact absurd hq (modelPayload?_ne_generic m s t)
    · cases h
  | multipart | form | plain | html => cases h

/-- A plan follows from the chosen media type and from how bodies of its kind are encoded. -/
theorem plan_eq_some {m : Models} {b : RequestBody} {p : Plan} (h : plan m b = some p) :
    negotiate b.content = some p.content ∧ p.kind = Kind.of p.content.selected ∧
      (p.payload, p.encoding) = encode m p.content.schema p.kind := by
  unfold plan at h
  obtain ⟨content, hcontent, h⟩ := Option.bind_eq_some_iff.mp h
  dsimp only at h
  generalize hkind : Kind.of content.selected = kind at h
  generalize hencode : encode m content.schema kind = encoded at h
  obtain ⟨payload, encoding⟩ := encoded
  cases h
  exact ⟨hcontent, hkind.symm, hencode.symm⟩

/-- The type of a generic body is that of the chosen schema, degraded. -/
theorem eq_of_plan {m : Models} {b : RequestBody} {p : Plan} {t : ValueType}
    (h : plan m b = some p) (hp : p.payload = .generic t) :
    t = (p.content.schema.map ValueType.generic).getD .any := by
  obtain ⟨-, -, hpayload⟩ := plan_eq_some h
  refine eq_of_encode (m := m) (k := p.kind) ?_
  rw [← hpayload]
  exact hp

/-- **THE TYPE OF A GENERIC BODY IS KNOWN.** -/
theorem known_of_plan {m : Models} {b : RequestBody} {p : Plan} {t : ValueType}
    (h : plan m b = some p) (hp : p.payload = .generic t) : t.Known := by
  rw [eq_of_plan h hp]
  cases p.content.schema with
  | none => exact ValueType.known_any
  | some s => exact ValueType.known_generic s

end Body

namespace Reply

/-- **THE TYPE OF THE BODY OF AN ANSWER IS KNOWN.** -/
theorem known_of_classify {m : Models} {rs : Document.Responses} {r : Reply}
    (h : classify m rs = .ok r) : r.bodyType.Known := by
  obtain ⟨body, -, hcoherent⟩ := coherent_of_classify h
  exact hcoherent.known

end Reply

/-! ## §3. Headers. -/

/-- Whether the schema of a header means an array or an object with an unknown part. -/
def HidesUnknown (h : Header) : Prop :=
  ∃ t, h.effectiveSchema.map ValueType.ofSchema = some t ∧ t.isComposite ∧ ¬ t.Known

/-- **THE TYPE OF A HEADER IS KNOWN UNLESS ITS SCHEMA HIDES AN UNKNOWN PART.** -/
theorem known_ofSlot_iff (h : Header) :
    (ValueType.ofSlot h.effectiveSchema).Known ↔ ¬ HidesUnknown h := by
  unfold HidesUnknown ValueType.ofSlot
  cases hs : h.effectiveSchema.map ValueType.ofSchema with
  | none => exact iff_of_true (ValueType.known_primitive _) (by simp)
  | some t =>
    have hcomposite : (if t.isUnknown then ValueType.string else t).Known ↔
        (t.isComposite → t.Known) := by
      cases t with
      | primitive p => exact iff_of_true (ValueType.known_primitive p) nofun
      | model name => exact iff_of_true (ValueType.known_model name) nofun
      | any => exact iff_of_true ValueType.known_any nofun
      | ref target => exact iff_of_true (ValueType.known_primitive _) nofun
      | unresolved => exact iff_of_true (ValueType.known_primitive _) nofun
      | array t => exact (imp_iff_right rfl).symm
      | object ps => exact (imp_iff_right rfl).symm
    rw [hcomposite]
    simp

/-! ## §4. Methods. -/

namespace Document

/-- **EVERY TYPE OF A METHOD IS KNOWN, EXCEPT FOR HEADERS THAT HIDE AN UNKNOWN PART.** -/
theorem known_types_of_compile (d : Document) (models : Models) (options : Options)
    (out : Compilation) (h : d.compile models options = .ok out) :
    ∀ m ∈ out.methods, ∃ ps, d.paths = some ps ∧ ∃ x ∈ ps.declared,
      (x.resolve d).compile (.of d models options) = .ok m ∧
      (∀ a ∈ m.arguments.toList, a.type.Known) ∧
      (∀ b t, m.body = some b → b.payload = .generic t → t.Known) ∧
      m.reply.bodyType.Known ∧
      ((∀ header ∈ m.reply.headers, header.type.Known) ↔
        ∀ e ∈ Reply.exposedHeaders (x.resolve d).operation.responses, ¬ HidesUnknown e.2) := by
  intro m hm
  obtain ⟨ps, hps, x, hx, hcompile⟩ := (mem_methods_of_compile h m).mp hm
  -- every type comes out of one stage, and that stage has succeeded
  obtain ⟨⟨merged, body, hstages⟩, -⟩ := Declared.stages_of_compile hcompile
  refine ⟨ps, hps, x, hx, hcompile, ?_, ?_, ?_, ?_⟩
  · exact Argument.known_of_buildAll hstages.building
  · intro b t hb ht
    have hplan := hstages.planning
    rw [hb] at hplan
    obtain ⟨r, -, hr⟩ := Method.plan_of_bodyPlan hplan
    exact Body.known_of_plan hr ht
  · exact Reply.known_of_classify hstages.classifying
  · rw [Reply.headers_of_classify hstages.classifying, List.forall_mem_map]
    exact forall₂_congr fun e _ => known_ofSlot_iff e.2

/-- An operation whose answer comes with a list of tags in a header, of which nothing is known but
    that it is a list. -/
def tagsOperation : Operation where
  operationId := some "listPets"
  responses := [("200", .inline { headers := [("X-Tags", .inline { type := some .array })] })]

/-- A document with this operation. -/
def tagsDocument : Document where
  swagger := some "2.0"
  paths := some [("/pets", { operations := [(.get, tagsOperation)] })]

/-- The operation compiles, what it takes and gives is known, and its header hides an unknown part. -/
theorem known_types_of_tagsDocument :
    ∃ out, tagsDocument.compile .none {} = .ok out ∧
      ∃ m, out.methods = [m] ∧
        (∀ a ∈ m.arguments.toList, a.type.Known) ∧ m.reply.bodyType.Known ∧
        (∃ header ∈ m.reply.headers, ¬ header.type.Known) ∧
        ∃ e ∈ Reply.exposedHeaders tagsOperation.responses, HidesUnknown e.2 := by
  obtain ⟨out, hout, m, hm⟩ : ∃ out, tagsDocument.compile .none {} = .ok out ∧
      ∃ m, out.methods = [m] := ⟨_, rfl, _, rfl⟩
  obtain ⟨ps, hps, x, hx, -, hargs, -, hbody, hheaders⟩ :=
    known_types_of_compile tagsDocument .none {} out hout m (by rw [hm]; exact List.mem_singleton.mpr rfl)
  cases hps
  have hx : x = ⟨"/pets", [], .get, tagsOperation⟩ := by
    simpa [Paths.declared] using hx
  subst hx
  have hhides : ∃ e ∈ Reply.exposedHeaders tagsOperation.responses, HidesUnknown e.2 :=
    ⟨("X-Tags", { type := some .array }), List.mem_singleton.mpr rfl, .array .unresolved, rfl, rfl,
      fun h => ValueType.not_known_unresolved (ValueType.known_array.mp h)⟩
  refine ⟨out, hout, m, hm, hargs, hbody, ?_, hhides⟩
  by_contra hall
  obtain ⟨e, he, hunknown⟩ := hhides
  refine hheaders.mp (fun header hmem => ?_) e he hunknown
  by_contra hheader
  exact hall ⟨header, hmem, hheader⟩

/-- **A METHOD MAY HAVE A TYPE WITH AN UNKNOWN PART**: that of a header. -/
theorem exists_header_not_known :
    ¬ ∀ (d : Document) (models : Models) (options : Options) (out : Compilation),
      d.compile models options = .ok out → ∀ m ∈ out.methods,
        (∀ a ∈ m.arguments.toList, a.type.Known) ∧
        (∀ b t, m.body = some b → b.payload = .generic t → t.Known) ∧
        m.reply.bodyType.Known ∧
        ∀ header ∈ m.reply.headers, header.type.Known := by
  intro hall
  obtain ⟨out, hout, m, hm, htypes⟩ : ∃ out, tagsDocument.compile .none {} = .ok out ∧
      ∃ m, out.methods = [m] ∧ m.reply.headers = [⟨"X-Tags", .array .unresolved, false⟩] :=
    ⟨_, rfl, _, rfl, rfl⟩
  obtain ⟨-, -, -, hheaders⟩ :=
    hall tagsDocument .none {} out hout m (by rw [hm]; exact List.mem_singleton.mpr rfl)
  have hknown := hheaders _ (by rw [htypes]; exact List.mem_singleton.mpr rfl)
  exact ValueType.not_known_unresolved (ValueType.known_array.mp hknown)

end Document

end ApiMethods
