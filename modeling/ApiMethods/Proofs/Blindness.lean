/-
  ApiMethods.Proofs.Blindness
  ───────────────────────────
  **THE SOURCE OF MODELS DECIDES NEITHER WHAT COMPILES NOR WHAT IS REPORTED.**

  The source of models is asked in three places: for the payload of a body, for the body of an
  answer, and for imports.  What it says shows in

      payload and encoding of a body,  model and type of an answer,  imports,

  and nowhere else.  `withoutModels` leaves these out of a method.  STEP: stage by stage, two
  compilations of one operation with different sources agree up to what is left out.  RUN: so do
  two compilations of a document, and since nothing is reported of what is left out, their issues
  are the same.
-/
import ApiMethods.Proofs.Outcomes

namespace ApiMethods

open Document (RequestBody Responses)

/-! ## §1. What is left out. -/

/-- A plan for a body without what the source of models decides. -/
def Body.Plan.withoutModels (p : Body.Plan) : Body.Plan :=
  { p with payload := .rawString, encoding := .passthrough }

/-- An answer without what the source of models decides. -/
def Reply.withoutModels (r : Reply) : Reply := { r with model := none, bodyType := .any }

/-- A method without what the source of models decides. -/
def Method.withoutModels (m : Method) : Method :=
  { m with body := m.body.map Body.Plan.withoutModels, reply := m.reply.withoutModels }

/-! ## §2. Step: one operation. -/

section Step

variable (models models' : Models)

/-- Body plans differ in payload and encoding. -/
theorem Body.map_withoutModels_plan (b : RequestBody) :
    (Body.plan models b).map Body.Plan.withoutModels
      = (Body.plan models' b).map Body.Plan.withoutModels := by
  unfold Body.plan
  cases negotiate b.content with
  | none => simp only [Option.bind_eq_bind, Option.bind_none]
  | some content =>
    dsimp only [Option.bind_eq_bind, Option.bind_some]
    generalize Kind.of content.selected = kind
    -- whatever the two sources make of the schema, it is left out
    generalize encode models content.schema kind = encoded
    generalize encode models' content.schema kind = encoded'
    rfl

/-- A body is refused for the verb, or for the lack of content, with any source of models. -/
theorem Method.map_withoutModels_bodyPlan (verb : Verb) (b : Option RequestBody) :
    (bodyPlan models verb b).map (Option.map Body.Plan.withoutModels)
      = (bodyPlan models' verb b).map (Option.map Body.Plan.withoutModels) := by
  cases b with
  | none => rfl
  | some b =>
    have hplan := Body.map_withoutModels_plan models models' b
    unfold bodyPlan
    cases verb.acceptsBody with
    | false => simp only [Bool.not_false, if_true]
    | true =>
      cases hp : Body.plan models b <;> cases hp' : Body.plan models' b <;>
        rw [hp, hp'] at hplan
      · simp only [hp, hp']
      · cases hplan
      · cases hplan
      · simp only [hp, hp']
        exact congrArg Except.ok hplan

namespace Reply

/-- The schema of a body tells whether it is a list, whoever knows its model. -/
theorem withoutModels_ofBody (mediaType : String) (s : Option Document.Schema) (r : Reply) :
    (ofBody models mediaType s r).withoutModels = (ofBody models' mediaType s r).withoutModels := by
  cases s with
  | none => rfl
  | some s =>
    show (ofSchema models s _).withoutModels = (ofSchema models' s _).withoutModels
    unfold ofSchema
    cases Models.reference? s with
    | none => rfl
    | some target => rfl

/-- Answers differ in model and body type. -/
theorem map_withoutModels_classify (rs : Responses) :
    (classify models rs).map withoutModels = (classify models' rs).map withoutModels := by
  unfold classify
  rcases select? rs with _ | ⟨code, target | response⟩
  · rfl
  · rfl
  · by_cases hempty : code = "204"
    · simp only [if_pos hempty]
    · simp only [if_neg hempty]
      cases body? response with
      | none => rfl
      | some b => exact congrArg Except.ok (withoutModels_ofBody models models' b.1 b.2 _)

end Reply

/-- **Step**: the outcomes of one operation agree up to what the source of models decides. -/
theorem Declared.map_withoutModels_compile (c : Method.Context) (x : Declared) :
    (x.compile { c with models := models }).map Method.withoutModels
      = (x.compile { c with models := models' }).map Method.withoutModels := by
  unfold compile Method.compile
  -- up to the declared body nothing looks at the models
  refine map_bind_congr fun id => ?_
  refine map_bind_congr fun merged => ?_
  refine map_bind_congr fun args => ?_
  refine map_bind_congr fun template => ?_
  refine map_bind_congr fun declared => ?_
  refine map_bind_agree (Method.map_withoutModels_bodyPlan models models' x.verb declared)
    fun body body' hbody => ?_
  refine map_bind_agree (Reply.map_withoutModels_classify models models' x.operation.responses)
    fun reply reply' hreply => ?_
  show Except.ok (Method.mk _ _ _ _ _ (body.map _) reply.withoutModels _ _ _ _ _ _)
    = Except.ok (Method.mk _ _ _ _ _ (body'.map _) reply'.withoutModels _ _ _ _ _ _)
  rw [hbody, hreply]
  rfl

/-- What is left out reports nothing. -/
theorem Method.issues_withoutModels (m : Method) : m.withoutModels.issues = m.issues := by
  unfold issues withoutModels
  cases m.body <;> rfl

end Step

/-! ## §3. Run: all operations. -/

namespace Document

/-- **COMPILING IS BLIND TO THE SOURCE OF MODELS.**  With any two sources a document fails for the
same reason, or the same operations are left out for the same reasons, the same is reported, and
the methods agree position by position in everything but the payload and the encoding of their
bodies and the model and the type of their answers. -/
theorem compile_blind_to_models (d : Document) (models models' : Models) (options : Options) :
    EndAlike
      (fun out out' =>
        out.skipped = out'.skipped ∧
        out.issues = out'.issues ∧
        out.methods.map Method.withoutModels = out'.methods.map Method.withoutModels)
      (d.compile models options) (d.compile models' options) := by
  refine endAlike_of_paths rfl fun ps _ => ?_
  have houtcome : ∀ x : Declared, (d.outcome models options x).map Method.withoutModels
      = (d.outcome models' options x).map Method.withoutModels :=
    fun x => (x.resolve d).map_withoutModels_compile models models' (.of d models options)
  refine ⟨?_, ?_, ?_⟩
  · exact Compilation.skipped_ofOutcomes (fun x _ => houtcome x) _ _ _ _
  · exact Compilation.issues_ofOutcomes (fun x _ => houtcome x) _ _ _ Method.issues_withoutModels
  · exact Compilation.map_methods_ofOutcomes (fun x _ => houtcome x) _ _ _ _

end Document

end ApiMethods
