/-
  ApiMethods.Proofs.OlderBodies
  ─────────────────────────────
  **AN OPERATION IN THE OLDER FORM MAKES THE METHOD THAT ITS MODERN FORM MAKES.**

  In the older form the body of a request is a parameter, the body of a response is a schema without
  a media type, and a header has a type of its own.  The MODERN FORM of an operation says the same
  in other places:

      the last parameter in: body     a request body with its description and schema, for each media
                                      type that the operation consumes, or else the document, or
                                      else for application/json
      the other parameters in: body   nothing
      the schema of a response        the content application/json with this schema, and no other
      the type of a header            a schema with this type and the format

  The two forms meet stage by stage.  Bodies are no arguments, so the merged parameters are the same
  (`map_parameters_of`); the request body that the compiler makes of the parameter is the declared
  one (`requestBody_modern`); and a response changes neither in its body nor in its headers
  (`classify_modern`).
-/
import ApiMethods.Proofs.DecidingResponse
import ApiMethods.Proofs.MergedParameters

namespace ApiMethods

open ApiMethods.Source (OrRef)
open Document (Header MediaType Operation Parameter PathItem RequestBody Response Responses)
open Inlining (mapInline)

/-! ## §1. The modern form. -/

namespace Document

/-- Whether a declaration is more than a body in the older form. -/
def isNoBody : OrRef Parameter → Bool
  | .ref _ => true
  | .inline p => !p.isBody

/-- The declarations that are no bodies. -/
def withoutBodies (ds : List (OrRef Parameter)) : List (OrRef Parameter) := ds.filter isNoBody

/-- The media types of a body in the older form: those that the operation consumes if it names some,
    those of the document if it names some, or JSON. -/
def mediaTypes : (document operation : List String) → List String
  | _, t :: ts => t :: ts
  | t :: ts, [] => t :: ts
  | [], [] => ["application/json"]

/-- A parameter as a request body: its schema holds for every media type. -/
def Parameter.toBody (types : List String) (p : Parameter) : RequestBody where
  description := p.description
  content := types.eraseDups.map fun t => (t, { schema := p.schema })
  required := p.required.getD false

/-- A header with its type and format in a schema, unless it has one. -/
def Header.modern (h : Header) : Header :=
  match h.schema, h.type with
  | none, some type =>
    { h with
      schema := some (.inline { type := some (.one type), format := h.format })
      type := none
      format := none }
  | _, _ => h

/-- A response with its schema as the content of JSON, and with its headers in the modern form. -/
def Response.modern (r : Response) : Response :=
  { r with
    content := match r.schema with
      | some s => [("application/json", { schema := some s })]
      | none => r.content
    schema := none
    headers := Table.mapValues (mapInline Header.modern) r.headers }

/-- An operation with its body, its responses and their headers in the modern form, given the
    parameters that it shares and what its document consumes. -/
def Operation.modern (consumes : List String) (shared : List (OrRef Parameter)) (op : Operation) :
    Operation :=
  { op with
    parameters := withoutBodies op.parameters
    requestBody := (Argument.lastBody? (shared ++ op.parameters)).map fun p =>
      .inline (p.toBody (mediaTypes consumes op.consumes))
    responses := op.responses.change Response.modern }

/-- A path item without bodies among the parameters that its operations share. -/
def PathItem.modern (item : PathItem) : PathItem :=
  { item with parameters := withoutBodies item.parameters }

end Document

open Document (isNoBody withoutBodies mediaTypes)

/-! ## §2. Parameters. -/

namespace Argument

theorem Merged.map_parameters_of (shared own : List (OrRef Parameter)) :
    (of shared own).map (·.parameters)
      = (declared (withoutBodies (shared ++ own))).map fun ps => .ofEntries (ps.filterMap keyed?) := by
  have hskip : ∀ ps : List Parameter,
      (ps.filter fun p => isNoBody (.inline p)).filterMap keyed? = ps.filterMap keyed? := by
    intro ps
    rw [List.filterMap_filter]
    refine List.filterMap_congr fun p _ => ?_
    cases hbody : p.isBody with
    | false => simp [isNoBody, hbody]
    | true => simp [isNoBody, hbody, keyed?_eq_none_of_isBody hbody]
  unfold withoutBodies of
  rw [declared_filter (fun _ => rfl)]
  cases declared (shared ++ own) with
  | error reason => rfl
  | ok ps =>
    show Except.ok (ps.foldl add empty).parameters = .ok (.ofEntries (List.filterMap keyed? _))
    rw [foldl_add, hskip]
    rfl

theorem lastBody?_append (ds ds' : List (OrRef Parameter)) :
    lastBody? (ds ++ ds') = (lastBody? ds').or (lastBody? ds) := by
  unfold lastBody?
  rw [List.filterMap_append, List.filter_append, List.getLast?_append]

theorem lastBody?_withoutBodies (ds : List (OrRef Parameter)) :
    lastBody? (withoutBodies ds) = none := by
  unfold lastBody? withoutBodies
  rw [List.getLast?_eq_none_iff, List.filter_eq_nil_iff]
  intro p hp
  obtain ⟨x, hx, hinline⟩ := List.mem_filterMap.mp hp
  cases x with
  | ref target => cases hinline
  | inline q =>
    cases hinline
    simpa [isNoBody] using (List.mem_filter.mp hx).2

end Argument

/-! ## §3. Request bodies. -/

/-- A table of one value for every key has this value once for each. -/
theorem Table.ofEntries_map_const {κ α : Type} [DecidableEq κ] (ks : List κ) (a : α) :
    ofEntries (ks.map fun k => (k, a)) = ks.eraseDups.map fun k => (k, a) := by
  have hkeys : keys (ofEntries (ks.map fun k => (k, a))) = ks.eraseDups := by
    rw [keys_ofEntries, List.map_map]
    exact congrArg List.eraseDups (List.map_id ks)
  have hvalue : ∀ e ∈ ofEntries (ks.map fun k => (k, a)), (e.1, a) = e := by
    intro e he
    obtain ⟨k, -, rfl⟩ := List.mem_map.mp (mem_ofEntries he)
    rfl
  rw [← hkeys, keys, List.map_map]
  exact ((List.map_congr_left hvalue).trans (List.map_id' _)).symm

namespace Method

theorem consumed_eq (document : List String) (op : Operation) :
    consumed document op = mediaTypes document op.consumes := by
  unfold consumed
  cases op.consumes with
  | cons t ts => rfl
  | nil => cases document <;> rfl

/-- The compiler makes of a parameter the request body that it is in the modern form. -/
theorem bodyOfParameter_eq (types : List String) (p : Parameter) :
    bodyOfParameter types p = p.toBody types := by
  unfold bodyOfParameter Document.Parameter.toBody
  rw [Table.ofEntries_map_const]

/-- **BOTH FORMS HAVE THE SAME REQUEST BODY**, whatever is left of the parameters. -/
theorem requestBody_modern (consumes : List String) (shared : List (OrRef Parameter))
    {op : Operation} (hnone : op.requestBody = none) {older : Option Parameter}
    (holder : Argument.lastBody? (shared ++ op.parameters) = none → older = none) :
    requestBody consumes (op.modern consumes shared) older
      = requestBody consumes op (Argument.lastBody? (shared ++ op.parameters)) := by
  unfold requestBody Operation.modern
  rw [hnone]
  cases hlast : Argument.lastBody? (shared ++ op.parameters) with
  | none =>
    rw [holder hlast]
    rfl
  | some p =>
    show Except.ok (some (p.toBody (mediaTypes consumes op.consumes))) = .ok (some _)
    rw [bodyOfParameter_eq, consumed_eq]

end Method

/-! ## §4. Responses. -/

namespace Reply

theorem body?_modern (r : Response) : body? r.modern = body? r := by
  unfold Response.modern body?
  cases r.schema with
  | none => rfl
  | some s => rfl

theorem effectiveSchema_modern (h : Header) : h.modern.effectiveSchema = h.effectiveSchema := by
  unfold Header.modern Header.effectiveSchema
  cases hs : h.schema with
  | some s => simp [hs]
  | none =>
    cases ht : h.type with
    | none => simp [hs, ht]
    | some type => rfl

theorem required_modern (h : Header) : h.modern.required = h.required := by
  unfold Header.modern
  split <;> rfl

/-- **Step**: a header in the modern form is collected like the header. -/
theorem addHeader_modern (found : List ReplyHeader) (name : String) (x : OrRef Header) :
    addHeader found name (mapInline Header.modern x) = addHeader found name x := by
  cases x with
  | ref target => rfl
  | inline h =>
    show addHeader found name (.inline h.modern) = addHeader found name (.inline h)
    simp only [addHeader, effectiveSchema_modern, required_modern]

theorem addHeaders_modern (found : List ReplyHeader) (r : Response) :
    addHeaders found (.inline r.modern) = addHeaders found (.inline r) := by
  show (Table.mapValues _ r.headers).foldl _ found = r.headers.foldl _ found
  unfold Table.mapValues
  rw [List.foldl_map]
  simp only [addHeader_modern]

/-- **BOTH FORMS GIVE THE SAME ANSWER.** -/
theorem classify_modern (m : Models) (rs : Responses) :
    classify m (rs.change Response.modern) = classify m rs := by
  rw [classify_eq, classify_eq, answer_change rs body?_modern, selectedCode?_change,
    collectHeaders_change rs addHeaders_modern]

end Reply

/-! ## §5. Operations. -/

namespace Method

/-- Both forms of an operation make the same method when their parameters differ in bodies alone. -/
theorem compile_modern_of (c : Context) (path : String) (item item' : PathItem) (verb : Verb)
    {op : Operation} (hnone : op.requestBody = none)
    (hshared : withoutBodies item'.parameters = withoutBodies item.parameters)
    (hbody : Argument.lastBody? (item.parameters ++ op.parameters) = none →
      Argument.lastBody? item'.parameters = none) :
    compile c path item' verb (op.modern c.consumes item.parameters)
      = compile c path item verb op := by
  have hparameters : (Argument.Merged.of item'.parameters (withoutBodies op.parameters)).map
      (·.parameters) = (Argument.Merged.of item.parameters op.parameters).map (·.parameters) := by
    have hsame : withoutBodies (item'.parameters ++ withoutBodies op.parameters)
        = withoutBodies (item.parameters ++ op.parameters) := by
      simp only [withoutBodies, List.filter_append, List.filter_filter, Bool.and_self] at hshared ⊢
      rw [hshared]
    rw [Argument.Merged.map_parameters_of, Argument.Merged.map_parameters_of, hsame]
  unfold compile
  refine bind_congr_ok fun id _ => ?_
  refine bind_agree_ok hparameters fun merged' merged hmerged' hmerged hsame => ?_
  -- the arguments are built from the same parameters
  have hargs : Argument.buildAll merged' = Argument.buildAll merged := by
    unfold Argument.buildAll
    rw [hsame]
  rw [hargs]
  refine bind_congr_ok fun args _ => ?_
  refine bind_congr_ok fun template _ => ?_
  -- the body that is left among the parameters does not count beside a declared one
  have hdeclared : requestBody c.consumes (op.modern c.consumes item.parameters) merged'.body
      = requestBody c.consumes op merged.body := by
    have hlast : merged.body = Argument.lastBody? (item.parameters ++ op.parameters) := by
      rw [Argument.Merged.eq_of_lists hmerged]
      rfl
    rw [hlast]
    refine requestBody_modern c.consumes item.parameters hnone fun hnobody => ?_
    have hlast' : merged'.body
        = Argument.lastBody? (item'.parameters ++ withoutBodies op.parameters) := by
      rw [Argument.Merged.eq_of_lists hmerged']
      rfl
    rw [hlast', Argument.lastBody?_append, Argument.lastBody?_withoutBodies, hbody hnobody]
    rfl
  rw [hdeclared]
  refine bind_congr_ok fun declared _ => ?_
  refine bind_congr_ok fun body _ => ?_
  have hreply : Reply.classify c.models (op.modern c.consumes item.parameters).responses
      = Reply.classify c.models op.responses := Reply.classify_modern c.models op.responses
  rw [hreply]
  rfl

/-- **THE OLDER FORM OF AN OPERATION MEANS WHAT ITS MODERN FORM MEANS**: without a request body of its
own, an operation makes the method that its modern form makes, or is left out for the same reason,
with any models and options; and it does not matter whether its path keeps the bodies that are
shared. -/
theorem compile_operation_modern (c : Context) (path : String) (item : PathItem) (verb : Verb)
    (op : Operation) (hnone : op.requestBody = none) :
    compile c path item.modern verb (op.modern c.consumes item.parameters)
      = compile c path item verb op ∧
    compile c path item verb (op.modern c.consumes item.parameters)
      = compile c path item verb op := by
  constructor
  · refine compile_modern_of c path item item.modern verb hnone ?_ fun _ => ?_
    · simp [PathItem.modern, withoutBodies]
    · exact Argument.lastBody?_withoutBodies _
  · refine compile_modern_of c path item item verb hnone rfl fun hnobody => ?_
    rw [Argument.lastBody?_append] at hnobody
    exact (Option.or_eq_none_iff.mp hnobody).2

/-- Letters are sent under this path, which shares a body of its own. -/
def lettersItem : PathItem where
  parameters := [
    .inline { name := "draft", location := .body },
    .inline { name := "box", location := .known .path, type := some .string }]

/-- A letter is sent in a format that is named twice, and its answer comes with a stamp. -/
def sendOperation : Operation where
  operationId := some "sendLetter"
  consumes := ["text/html", "text/html"]
  parameters := [.inline {
    name := "letter"
    location := .body
    description := some "the letter"
    required := some true
    schema := some (.ref "#/definitions/Letter") }]
  responses := [("200", .inline {
    schema := some (.ref "#/definitions/Letter")
    headers := [("X-Stamp", .inline { type := some .integer })] })]

/-- What its document says of it: bodies are plain texts unless something else is said. -/
def lettersContext : Context := ⟨{}, .none, .ofDocument {}, none, ["text/plain"]⟩

/-- Both forms make the method with the last body, its format once, and both are refused for a verb
that admits no body. -/
theorem compile_operation_modern_sendOperation :
    let modern := sendOperation.modern lettersContext.consumes lettersItem.parameters
    sendOperation.requestBody = none ∧
    compile lettersContext "/letters/\x7bbox\x7d" lettersItem.modern .post modern
      = compile lettersContext "/letters/\x7bbox\x7d" lettersItem .post sendOperation ∧
    compile lettersContext "/letters/\x7bbox\x7d" lettersItem .get modern
      = compile lettersContext "/letters/\x7bbox\x7d" lettersItem .get sendOperation ∧
    modern.requestBody = some (.inline {
      description := some "the letter"
      content := [("text/html", { schema := some (.ref "#/definitions/Letter") })]
      required := true }) ∧
    ((compile lettersContext "/letters/\x7bbox\x7d" lettersItem .post sendOperation).toOption.map
        fun m => (m.body.map (·.content.available), m.reply.headers.map (·.name)))
      = some (some ["text/html"], ["X-Stamp"]) ∧
    compile lettersContext "/letters/\x7bbox\x7d" lettersItem .get sendOperation
      = .error (.requestBodyNotAllowed .get) := by
  intro modern
  refine ⟨rfl, ?_, ?_, rfl, ?_, rfl⟩
  · exact (compile_operation_modern lettersContext _ lettersItem .post sendOperation rfl).1
  · exact (compile_operation_modern lettersContext _ lettersItem .get sendOperation rfl).2
  · decide +kernel

end Method

end ApiMethods
