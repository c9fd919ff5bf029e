/-
  ApiMethods.Proofs.Imports
  ─────────────────────────
  **THE IMPORTS OF A COMPILATION ARE THOSE OF THE MODELS THAT ITS METHODS USE.**

  A method USES the model of its request and then the model of its answer (`Method.models`).  The
  imports are read off these uses alone, in the order of the methods, once each.

  Nothing is missed by that.  A type may mention a model at any depth, but a schema never means
  one, and degrading never makes one (§1): a model gets into a type only where the body of an
  answer is a model, or a list of one, and then the answer names it.  Nothing is imported in vain
  either: an operation that is left out uses no model, and the imports are the same without it.
-/
import ApiMethods.Proofs.Answers
import ApiMethods.Proofs.Independence
import ApiMethods.Proofs.Outcomes
import ApiMethods.Proofs.TypedMethods

namespace ApiMethods

open Document (Parameter Paths Schema SchemaBody)

/-! ## §1. Types without models. -/

namespace ValueType

theorem modelFree_generic (s : Schema) : ModelFree (generic s) :=
  modelFree_degrade (modelFree_ofSchema s)

theorem modelFree_ofSlot (s : Option Schema) : ModelFree (ofSlot s) := by
  unfold ofSlot
  cases s with
  | none => exact modelFree_primitive _
  | some s =>
    show ModelFree (if (ofSchema s).isUnknown then string else ofSchema s)
    split
    · exact modelFree_primitive _
    · exact modelFree_ofSchema s

end ValueType

/-! ## §2. Where the types of a method come from. -/

/-- The types of arguments mention no model. -/
theorem Argument.modelFree_of_typeOf {p : Parameter} {location : Location} {t : ValueType}
    (h : typeOf p location = .ok t) : t.ModelFree := by
  obtain ⟨s, -, rfl⟩ := exists_of_typeOf h
  exact ValueType.modelFree_generic s

/-- The type of a generic payload. -/
def Body.Payload.type? : Payload → Option ValueType
  | .generic t => some t
  | _ => none

/-- The type of a generic body mentions no model. -/
theorem Body.modelFree_of_plan {m : Models} {b : Document.RequestBody} {p : Plan} {t : ValueType}
    (h : plan m b = some p) (ht : p.payload.type? = some t) : t.ModelFree := by
  have hp : p.payload = .generic t := by
    cases hpayload : p.payload with
    | generic t' =>
      rw [hpayload] at ht
      cases ht
      rfl
    | fieldBag | formMap | rawString | model _ _ =>
      rw [hpayload] at ht
      cases ht
  rw [eq_of_plan h hp]
  cases p.content.schema with
  | none => exact ValueType.modelFree_any
  | some s => exact ValueType.modelFree_generic s

namespace Reply

/-- **A MODEL IN THE BODY OF AN ANSWER IS NAMED BY THE ANSWER.** -/
theorem model_of_part_bodyType {m : Models} {rs : Document.Responses} {r : Reply}
    (h : classify m rs = .ok r) {name : String} (hpart : r.bodyType.Part (.model name)) :
    r.model = some name := by
  obtain ⟨a, ha, rfl⟩ := exists_of_classify h
  obtain ⟨status, body, -, hreads⟩ := reads_of_answer ha
  cases hreads with
  | nothing | untyped => exact absurd hpart (ValueType.modelFree_any name)
  | @model _ _ target isList _ =>
    -- a model, or a map in its place, or a list of either
    have hsingle : (((m.typeOf? target).map .model).getD .map : ValueType).Part (.model name) := by
      cases isList with
      | false => exact hpart
      | true =>
        cases hpart with
        | items hpart => exact hpart
    show m.typeOf? target = some name
    cases htype : m.typeOf? target with
    | none =>
      rw [htype] at hsingle
      exact absurd hsingle (ValueType.modelFree_map name)
    | some type =>
      rw [htype] at hsingle
      cases hsingle
      rfl
  | generic => exact absurd hpart (ValueType.modelFree_generic _ name)

end Reply

/-- The types of a method: those of its arguments, of a generic body, of its answer, and of the
    headers that come with it. -/
def Method.types (m : Method) : List ValueType :=
  m.arguments.toList.map (·.type) ++ (m.body.bind (·.payload.type?)).toList ++
    m.reply.bodyType :: m.reply.headers.map (·.type)

/-- **A METHOD USES EVERY MODEL THAT ITS TYPES MENTION.** -/
theorem Declared.mem_models_of_part {c : Method.Context} {x : Declared} {m : Method}
    (h : x.compile c = .ok m) {t : ValueType} (ht : t ∈ m.types) {name : String}
    (hpart : t.Part (.model name)) : name ∈ m.models := by
  obtain ⟨⟨merged, body, hstages⟩, -⟩ := Declared.stages_of_compile h
  have hreply : ∀ r : ReplyHeader, r ∈ m.reply.headers → r.type.ModelFree := by
    rw [Reply.headers_of_classify hstages.classifying, List.forall_mem_map]
    exact fun e _ => ValueType.modelFree_ofSlot e.2.effectiveSchema
  simp only [Method.types, List.mem_append, List.mem_cons, List.mem_map, Option.mem_toList] at ht
  rcases ht with (⟨a, ha, rfl⟩ | hbody) | rfl | ⟨r, hr, rfl⟩
  · obtain ⟨e, he⟩ := Argument.exists_build_of_mem_toList hstages.building a ha
    exact absurd hpart (Argument.modelFree_of_typeOf (Argument.of_build he).2.2 name)
  · obtain ⟨b, hb, hpayload⟩ := Option.bind_eq_some_iff.mp hbody
    have hplan := hstages.planning
    rw [hb] at hplan
    obtain ⟨r, -, hr⟩ := Method.plan_of_bodyPlan hplan
    exact absurd hpart (Body.modelFree_of_plan hr hpayload name)
  · refine List.mem_append_right _ (Option.mem_toList.mpr ?_)
    exact Reply.model_of_part_bodyType hstages.classifying hpart
  · exact absurd hpart (hreply r hr name)

/-! ## §3. Compilations. -/

/-- The models that the methods use, method by method: that of the request, and then that of the
    answer. -/
def Compilation.usedModels (out : Compilation) : List String := out.methods.flatMap Method.models

/-- The imports of a method are those of its models. -/
theorem Method.imports_eq (models : Models) (m : Method) :
    m.imports models = (m.models.filter models.isModel).filterMap models.importOf? := by
  unfold Method.imports
  rw [List.filterMap_filter]

/-- **THE IMPORTS ARE THOSE OF THE MODELS IN USE**, in the order of their use, once each. -/
theorem Compilation.imports_ofOutcomes (models : Models) (issues : List Issue)
    (walk : List Declared) (outcome : Declared → Except SkipReason Method) :
    (ofOutcomes models issues walk outcome).imports =
      (((ofOutcomes models issues walk outcome).usedModels.filter models.isModel).filterMap
        models.importOf?).eraseDups := by
  unfold usedModels
  rw [List.filter_flatMap, List.filterMap_flatMap]
  simp only [← Method.imports_eq]
  rfl

namespace Document

/-- The path items with the operations that are to be kept. -/
def Paths.keep (p : Declared → Bool) (ps : Paths) : Paths :=
  ps.map fun e => (e.1, { e.2 with
    operations := e.2.operations.filter fun o => p ⟨e.1, e.2.parameters, o.1, o.2⟩ })

theorem Paths.declared_keep (p : Declared → Bool) (ps : Paths) :
    (ps.keep p).declared = ps.declared.filter p := by
  unfold Paths.declared Paths.keep
  rw [List.flatMap_map, List.filter_flatMap]
  refine List.flatMap_congr fun e _ => ?_
  rw [List.filter_map]
  rfl

/-- What compiles has paths. -/
theorem exists_paths_of_compile {d : Document} {models : Models} {options : Options}
    {out : Compilation} (h : d.compile models options = .ok out) : ∃ ps, d.paths = some ps := by
  cases hps : d.paths with
  | some ps => exact ⟨ps, rfl⟩
  | none =>
    rw [compile_of_no_paths hps] at h
    cases h

/-- The document without the operations that are left out. -/
def onlyCompiled (d : Document) (models : Models) (options : Options) : Document :=
  { d with paths := d.paths.map (Paths.keep fun x => (d.outcome models options x).toOption.isSome) }

/-- **THE OPERATIONS THAT ARE LEFT OUT CONTRIBUTE NO METHOD.** -/
theorem compile_onlyCompiled {d : Document} {ps : Paths} (h : d.paths = some ps) (models : Models)
    (options : Options) :
    ∃ out, (d.onlyCompiled models options).compile models options = .ok out ∧ out.skipped = [] ∧
      out.methods = ps.declared.filterMap fun x => (d.outcome models options x).toOption := by
  have hpaths : (d.onlyCompiled models options).paths
      = some (ps.keep fun x => (d.outcome models options x).toOption.isSome) := by
    show d.paths.map _ = _
    rw [h]
    rfl
  -- what becomes of an operation does not depend on the other paths
  have houtcome : (d.onlyCompiled models options).outcome models options
      = d.outcome models options := by
    funext x
    unfold outcome
    rw [show x.resolve (d.onlyCompiled models options) = x.resolve d from resolve_withPaths d _ x]
    rfl
  refine ⟨_, compile_eq_ofOutcomes _ _ models options hpaths, ?_, ?_⟩
  · rw [houtcome, Paths.declared_keep]
    refine List.filterMap_eq_nil_iff.mpr fun x hx => ?_
    have hok := (List.mem_filter.mp hx).2
    cases hw : d.outcome models options x with
    | ok m => rfl
    | error reason => simp [hw, Except.toOption] at hok
  · rw [houtcome, Paths.declared_keep]
    show List.filterMap _ (List.filter _ _) = _
    rw [List.filterMap_filter]
    refine List.filterMap_congr fun x _ => ?_
    cases d.outcome models options x <;> rfl

/-- **THE IMPORTS ARE SOUND, COMPLETE AND ORDERED.**  They are the imports of the models in use that
are models of their own, in the order of their use, once each; a method uses every model that one
of its types mentions at any depth; and without the operations that are left out the imports are
the same. -/
theorem imports_of_compile (d : Document) (models : Models) (options : Options)
    (out : Compilation) (h : d.compile models options = .ok out) :
    out.imports = ((out.usedModels.filter models.isModel).filterMap models.importOf?).eraseDups ∧
    (∀ m ∈ out.methods, ∀ t ∈ m.types, ∀ name, t.Part (.model name) → name ∈ m.models) ∧
    ∃ out', (d.onlyCompiled models options).compile models options = .ok out' ∧
      out'.skipped = [] ∧ out'.methods = out.methods ∧ out'.imports = out.imports := by
  have himports : ∀ (e : Document) (c : Compilation), e.compile models options = .ok c →
      c.imports
        = ((c.usedModels.filter models.isModel).filterMap models.importOf?).eraseDups := by
    intro e c hc
    obtain ⟨ps, hps⟩ := exists_paths_of_compile hc
    rw [compile_eq_ofOutcomes e ps models options hps] at hc
    cases hc
    exact Compilation.imports_ofOutcomes models _ _ _
  refine ⟨himports d out h, ?_, ?_⟩
  · intro m hm t ht name hpart
    obtain ⟨ps, -, x, -, hcompile⟩ := (mem_methods_of_compile h m).mp hm
    exact Declared.mem_models_of_part hcompile ht hpart
  · obtain ⟨ps, hps⟩ := exists_paths_of_compile h
    obtain ⟨out', hout', hskipped, hmethods⟩ := compile_onlyCompiled hps models options
    have hsame : out'.methods = out.methods := by
      rw [hmethods]
      rw [compile_eq_ofOutcomes d ps models options hps] at h
      cases h
      rfl
    refine ⟨out', hout', hskipped, hsame, ?_⟩
    -- the imports are read off the methods
    rw [himports _ out' hout', himports d out h]
    unfold Compilation.usedModels
    rw [hsame]

/-- Pets and tags have models; a tag is no model of its own. -/
def petModels : Models where
  typeOf? target :=
    if target = "#/definitions/pet" then some "Pet"
    else if target = "#/definitions/tag" then some "Tag" else none
  importOf? type := some ("models/" ++ type)
  isModel type := type = "Pet"

/-- Pets are stored and listed, and their tags are read; removing them is left out for want of an
    id. -/
def petPaths : Paths :=
  let pet : Schema := .ref "#/definitions/pet"
  let pets : Schema := .inline { type := some (.one .array), items := some pet }
  let json (s : Schema) : Content := [("application/json", { schema := some s })]
  [("/pets", { operations := [
    (.post, { operationId := some "store", requestBody := some (.inline { content := json pet }) }),
    (.delete, { responses := [("200", .inline { content := json pet })] }),
    (.get, { operationId := some "list", responses := [("200", .inline { content := json pets })] })] }),
   ("/tags", { operations := [
    (.get, { operationId := some "tags", responses := [
      ("200", .inline { content := json (.ref "#/definitions/tag") })] })] })]

/-- A document with these paths. -/
def petDocument : Document where
  swagger := some "2.0"
  paths := some petPaths

/-- Pets are used twice and imported once, tags are used and not imported, and a list of pets is a
    type that mentions a model below the top. -/
theorem imports_of_petDocument :
    ∃ out, petDocument.compile petModels {} = .ok out ∧ out.skipped.length = 1 ∧
      out.usedModels = ["Pet", "Pet", "Tag"] ∧ out.imports = ["models/Pet"] ∧
      (∃ m ∈ out.methods, ∃ t ∈ m.types, t.Part (.model "Pet") ∧ t.isComposite ∧
        "Pet" ∈ m.models) ∧
      ∃ out', (petDocument.onlyCompiled petModels {}).compile petModels {} = .ok out' ∧
        out'.imports = out.imports := by
  have hout := compile_eq_ofOutcomes petDocument petPaths petModels {} rfl
  generalize hrun : Compilation.ofOutcomes petModels _ _ _ = out at hout
  have hskipped : out.skipped.length = 1 := by
    rw [← hrun]
    decide +kernel
  have hused : out.usedModels = ["Pet", "Pet", "Tag"] := by
    rw [← hrun]
    decide +kernel
  have htypes : out.methods.map Method.types
      = [[.any], [.array (.model "Pet")], [.model "Tag"]] := by
    rw [← hrun]
    with_unfolding_all rfl
  obtain ⟨himports, hmentions, out', hout', -, -, hsame⟩ :=
    imports_of_compile petDocument petModels {} out hout
  obtain ⟨list, hlist, htype⟩ :
      ∃ list ∈ out.methods, ValueType.array (.model "Pet") ∈ list.types := by
    have hmem : [ValueType.array (.model "Pet")] ∈ out.methods.map Method.types := by
      rw [htypes]
      simp
    obtain ⟨list, hlist, heq⟩ := List.mem_map.mp hmem
    exact ⟨list, hlist, heq ▸ List.mem_singleton.mpr rfl⟩
  have hpart : (ValueType.array (.model "Pet")).Part (.model "Pet") := .items (.self _)
  refine ⟨out, hout, hskipped, hused, ?_, ?_, out', hout', hsame⟩
  · rw [himports, hused]
    decide +kernel
  · exact ⟨list, hlist, _, htype, hpart, rfl, hmentions list hlist _ htype "Pet" hpart⟩

end Document

end ApiMethods
