/-
  ApiMethods.Proofs.Answers
  ─────────────────────────
  **THE FIELDS OF AN ANSWER FIT TOGETHER.**

  An answer is read from the body of the deciding response, in one of four ways:

      body                                  kind, list        model        type
      none                                  void              none         any value
      one without a schema                  object            none         any value
      a schema with the reference of a      object, or an     the model,   the model, or else a map;
      model, or of a list of models         array if a list   if known     a list of it if a list
      any other schema                      object or array   none         what the schema means

  `Reads` is this table, and `reads_of_answer` says that the compiler follows it.  Later results go
  case by case through the table.  So does `Coherent`, which says how the fields depend on each
  other and on what the source of models knows; `answers_coherent` says when there is an answer at
  all, under which status, and that it is coherent.
-/
import ApiMethods.Proofs.DecidingResponse
import ApiMethods.Proofs.KnownTypes

namespace ApiMethods.Reply

open ApiMethods.Source (OrRef)
open Document (Response Responses Schema)

/-! ## §1. Reading a body. -/

/-- What is read from a body under a status, the source of models being asked for references. -/
inductive Reads (m : Models) (status : Option String) :
    Option (String × Option Schema) → Reply → Prop
  | nothing : Reads m status none { status := status }
  | untyped {mediaType : String} :
      Reads m status (some (mediaType, none))
        { kind := .object, status := status, contentType := some mediaType }
  | model {mediaType : String} {s : Schema} {target : String} {isList : Bool} :
      Models.reference? s = some (target, isList) →
      Reads m status (some (mediaType, some s))
        { kind := kindOf isList
          status := status
          contentType := some mediaType
          model := m.typeOf? target
          isList := isList
          bodyType := listOf isList (((m.typeOf? target).map .model).getD .map) }
  | generic {mediaType : String} {s : Schema} {isList : Bool} :
      Models.reference? s = none → isList = (saysArray s || isArray (ValueType.generic s)) →
      Reads m status (some (mediaType, some s))
        { kind := kindOf isList
          status := status
          contentType := some mediaType
          isList := isList
          bodyType := .generic s }

/-- **A RESPONSE IS READ BY ITS BODY.** -/
theorem reads_ofResponse (m : Models) (code : String) (response : Response) :
    Reads m (some code) (bodyUnder? code response) (ofResponse m code response) := by
  unfold ofResponse
  rcases bodyUnder? code response with _ | ⟨mediaType, _ | s⟩
  · exact .nothing
  · exact .untyped
  · show Reads m (some code) (some (mediaType, some s)) (ofSchema m s _)
    unfold ofSchema
    cases href : Models.reference? s with
    | none => exact .generic href rfl
    | some x => exact .model href

theorem Reads.status {m : Models} {status : Option String} {body : Option (String × Option Schema)}
    {r : Reply} (h : Reads m status body r) : r.status = status := by
  cases h <;> rfl

/-- The status and the body that responses offer: those of the deciding response, or nothing where
    none decides. -/
inductive Offers (rs : Responses) : Option String → Option (String × Option Schema) → Prop
  | undecided : (∀ code x, ¬ Decides rs code x) → Offers rs none none
  | decided {code : String} {response : Response} : Decides rs code (.inline response) →
      Offers rs (some code) (bodyUnder? code response)

theorem answer_of_decides_ref {rs : Responses} {code target : String}
    (h : Decides rs code (.ref target)) (m : Models) :
    answer m rs = .error (.unresolvedReference target) := by
  unfold answer
  rw [select?_eq_some_iff.mpr h]

/-- **WHAT THE RESPONSES OFFER IS READ**: there is an answer then. -/
theorem Offers.exists_reads {rs : Responses} {status : Option String}
    {body : Option (String × Option Schema)} (h : Offers rs status body) (m : Models) :
    ∃ a, answer m rs = .ok a ∧ a.status = status ∧ Reads m status body a := by
  cases h with
  | undecided hnone =>
    refine ⟨{}, ?_, rfl, .nothing⟩
    unfold answer
    rw [select?_eq_none_iff.mpr hnone]
  | @decided code response hdecides =>
    have hreads := reads_ofResponse m code response
    refine ⟨ofResponse m code response, ?_, hreads.status, hreads⟩
    unfold answer
    rw [select?_eq_some_iff.mpr hdecides]

/-- **NOTHING ELSE IS AN ANSWER.** -/
theorem reads_of_answer {m : Models} {rs : Responses} {a : Reply} (h : answer m rs = .ok a) :
    ∃ status body, Offers rs status body ∧ Reads m status body a := by
  unfold answer at h
  split at h
  · rename_i hnone
    cases h
    exact ⟨none, none, .undecided (select?_eq_none_iff.mp hnone), .nothing⟩
  · cases h
  · rename_i code response hsome
    cases h
    exact ⟨_, _, .decided (select?_eq_some_iff.mp hsome), reads_ofResponse m code response⟩

/-! ## §2. Answers whose fields fit together. -/

/-- The reference of a model that the schema of a body makes, and whether it is of lists of it. -/
def modelReference? (body : Option (String × Option Schema)) : Option (String × Bool) :=
  (body.bind (·.2)).bind Models.reference?

/-- The fields of an answer fit together, and to the body that it was read from. -/
structure Coherent (m : Models) (body : Option (String × Option Schema)) (r : Reply) : Prop where
  /-- The media type is that of the body. -/
  contentType : r.contentType = body.map (·.1)
  /-- An answer is void exactly when it has no media type, ... -/
  void_iff : r.kind = .void ↔ r.contentType = none
  /-- ... and a list exactly when its kind says so. -/
  isList_iff : r.isList = true ↔ r.kind = .array
  /-- Nothing is known of what is not there. -/
  of_void : r.kind = .void → r.model = none ∧ r.bodyType = .any
  /-- A type of lists makes an array. -/
  of_array : ∀ t, r.bodyType = .array t → r.kind = .array
  /-- The model is what the source of models says to the reference of the schema, ... -/
  model_iff : ∀ name, r.model = some name ↔ ∃ target isList,
    modelReference? body = some (target, isList) ∧ m.typeOf? target = some name
  /-- ... and then it is the type, or the type is that of lists of it; ... -/
  of_model : ∀ name, r.model = some name → r.bodyType = listOf r.isList (.model name)
  /-- ... where nothing is said to the reference, a map stands for the model. -/
  of_unknown : ∀ target isList, modelReference? body = some (target, isList) →
    m.typeOf? target = none → r.bodyType = listOf r.isList .map
  /-- The reference says whether the answer is a list. -/
  of_reference : ∀ target isList, modelReference? body = some (target, isList) → r.isList = isList
  /-- Without a reference the type is what the schema means. -/
  of_generic : ∀ s, body.bind (·.2) = some s → Models.reference? s = none →
    r.bodyType = .generic s
  /-- No part of the type is unknown. -/
  known : r.bodyType.Known

theorem kindOf_ne_void (isList : Bool) : kindOf isList ≠ .void := by cases isList <;> decide

theorem kindOf_eq_array_iff (isList : Bool) : isList = true ↔ kindOf isList = .array := by
  cases isList <;> decide

theorem known_listOf {isList : Bool} {t : ValueType} (h : t.Known) : (listOf isList t).Known := by
  cases isList with
  | false => exact h
  | true => exact ValueType.known_array.mpr h

/-- Only lists make an array of what is none. -/
theorem isList_of_listOf {isList : Bool} {t u : ValueType} (ht : isArray t = false)
    (h : listOf isList t = .array u) : isList = true := by
  cases isList with
  | true => rfl
  | false =>
    change t = .array u at h
    rw [h] at ht
    cases ht

/-- The type that stands for a model, if there is one, is known and no array. -/
theorem known_modelType (model : Option String) :
    ((model.map ValueType.model).getD .map).Known ∧
      isArray ((model.map ValueType.model).getD .map) = false := by
  cases model with
  | none => exact ⟨ValueType.known_map, rfl⟩
  | some name => exact ⟨ValueType.known_model name, rfl⟩

/-- **WHAT IS READ FROM A BODY FITS TOGETHER.** -/
theorem Reads.coherent {m : Models} {status : Option String}
    {body : Option (String × Option Schema)} {r : Reply} (h : Reads m status body r) :
    r.Coherent m body := by
  cases h with
  | nothing =>
    exact {
      contentType := rfl
      void_iff := ⟨fun _ => rfl, fun _ => rfl⟩
      isList_iff := ⟨nofun, nofun⟩
      of_void := fun _ => ⟨rfl, rfl⟩
      of_array := nofun
      model_iff := fun name => ⟨nofun, nofun⟩
      of_model := nofun
      of_unknown := nofun
      of_reference := nofun
      of_generic := nofun
      known := ValueType.known_any }
  | untyped =>
    exact {
      contentType := rfl
      void_iff := ⟨nofun, nofun⟩
      isList_iff := ⟨nofun, nofun⟩
      of_void := nofun
      of_array := nofun
      model_iff := fun name => ⟨nofun, nofun⟩
      of_model := nofun
      of_unknown := nofun
      of_reference := nofun
      of_generic := nofun
      known := ValueType.known_any }
  | @model mediaType s target isList href =>
    have hbody : modelReference? (some (mediaType, some s)) = some (target, isList) := href
    obtain ⟨hknown, hsingle⟩ := known_modelType (m.typeOf? target)
    exact {
      contentType := rfl
      void_iff := ⟨fun h => absurd h (kindOf_ne_void isList), nofun⟩
      isList_iff := kindOf_eq_array_iff isList
      of_void := fun h => absurd h (kindOf_ne_void isList)
      of_array := fun t h => (kindOf_eq_array_iff isList).mp (isList_of_listOf hsingle h)
      model_iff := by
        intro name
        constructor
        · exact fun h => ⟨target, isList, hbody, h⟩
        · rintro ⟨target', isList', htarget, h⟩
          cases hbody.symm.trans htarget
          exact h
      of_model := by
        intro name h
        change m.typeOf? target = some name at h
        show listOf isList (((m.typeOf? target).map .model).getD .map) = _
        rw [h]
        rfl
      of_unknown := by
        intro target' isList' htarget h
        cases hbody.symm.trans htarget
        show listOf isList (((m.typeOf? target).map .model).getD .map) = _
        rw [h]
        rfl
      of_reference := by
        intro target' isList' htarget
        cases hbody.symm.trans htarget
        rfl
      of_generic := by
        rintro _ ⟨⟩ hnone
        cases href.symm.trans hnone
      known := known_listOf hknown }
  | @generic mediaType s isList href hlist =>
    exact {
      contentType := rfl
      void_iff := ⟨fun h => absurd h (kindOf_ne_void isList), nofun⟩
      isList_iff := kindOf_eq_array_iff isList
      of_void := fun h => absurd h (kindOf_ne_void isList)
      of_array := by
        intro t ht
        change ValueType.generic s = .array t at ht
        have harray : isList = true := by rw [hlist, ht, isArray, Bool.or_true]
        exact (kindOf_eq_array_iff isList).mp harray
      model_iff := by
        intro name
        constructor
        · nofun
        · rintro ⟨target, isList', htarget, _⟩
          cases href.symm.trans htarget
      of_model := nofun
      of_unknown := by
        intro target isList' htarget
        cases href.symm.trans htarget
      of_reference := by
        intro target isList' htarget
        cases href.symm.trans htarget
      of_generic := by
        rintro _ ⟨⟩ _
        rfl
      known := ValueType.known_degrade _ }

/-- The headers have no part in this. -/
theorem Coherent.withHeaders {m : Models} {body : Option (String × Option Schema)} {r : Reply}
    (h : r.Coherent m body) (headers : List ReplyHeader) :
    { r with headers := headers }.Coherent m body :=
  ⟨h.contentType, h.void_iff, h.isList_iff, h.of_void, h.of_array, h.model_iff, h.of_model,
    h.of_unknown, h.of_reference, h.of_generic, h.known⟩

/-! ## §3. Classified answers. -/

/-- What the responses offer is classified as a coherent answer. -/
theorem Offers.exists_classify {rs : Responses} {status : Option String}
    {body : Option (String × Option Schema)} (h : Offers rs status body) (m : Models) :
    ∃ r, classify m rs = .ok r ∧ r.status = status ∧ r.Coherent m body := by
  obtain ⟨a, ha, hstatus, hreads⟩ := h.exists_reads m
  rw [classify_eq, ha]
  exact ⟨_, rfl, hstatus, hreads.coherent.withHeaders _⟩

/-- **EVERY ANSWER IS COHERENT** with what the responses offer. -/
theorem coherent_of_classify {m : Models} {rs : Responses} {r : Reply} (h : classify m rs = .ok r) :
    ∃ body, Offers rs r.status body ∧ r.Coherent m body := by
  obtain ⟨a, ha, rfl⟩ := exists_of_classify h
  obtain ⟨status, body, hoffers, hreads⟩ := reads_of_answer ha
  rw [← hreads.status] at hoffers
  exact ⟨body, hoffers, hreads.coherent.withHeaders _⟩

/-- Without a body the answer is void. -/
theorem Coherent.void {m : Models} {r : Reply} (h : r.Coherent m none) : r.kind = .void :=
  h.void_iff.mpr h.contentType

theorem classify_of_decides_ref {rs : Responses} {code target : String}
    (h : Decides rs code (.ref target)) (m : Models) :
    classify m rs = .error (.unresolvedReference target) := by
  rw [classify_eq, answer_of_decides_ref h]
  rfl

/-- No response decides when there is none under a code that may. -/
theorem not_decides {rs : Responses} (h : ∀ code ∈ decidingCodes, rs.get? code = none)
    (code : String) (x : OrRef Response) : ¬ Decides rs code x := by
  intro hdecides
  have hcode : code ∈ decidingCodes := by cases hdecides <;> decide
  cases hdecides.get?_eq.symm.trans (h code hcode)

/-- **ANSWERS ARE COHERENT.**  A response under `204` gives a void answer, or none at all if it is
    a reference, whatever the others are.  Else the first response under `200`, `201` and `202`
    decides, and without one the answer is void and has no status.  The fields of every answer fit
    together and to the body that it was read from. -/
theorem answers_coherent (m : Models) (rs : Responses) :
    (∀ target, rs.get? "204" = some (.ref target) →
      classify m rs = .error (.unresolvedReference target)) ∧
    (∀ response, rs.get? "204" = some (.inline response) →
      ∃ r, classify m rs = .ok r ∧ r.kind = .void ∧ r.status = some "204" ∧ r.Coherent m none) ∧
    (∀ code target, Decides rs code (.ref target) →
      classify m rs = .error (.unresolvedReference target)) ∧
    (∀ code response, code ≠ "204" → Decides rs code (.inline response) →
      ∃ r, classify m rs = .ok r ∧ r.status = some code ∧ r.Coherent m (body? response)) ∧
    ((∀ code ∈ ["204", "200", "201", "202"], rs.get? code = none) →
      ∃ r, classify m rs = .ok r ∧ r.kind = .void ∧ r.status = none ∧ r.Coherent m none) ∧
    (∀ r, classify m rs = .ok r → ∃ body, Offers rs r.status body ∧ r.Coherent m body) := by
  refine ⟨?noContentRef, ?noContent, ?decidesRef, ?decides, ?nothing,
    fun r hr => coherent_of_classify hr⟩
  case noContentRef => exact fun target h => classify_of_decides_ref (.noContent h) m
  case noContent =>
    intro response h
    obtain ⟨r, hr, hstatus, hcoherent⟩ := (Offers.decided (.noContent h)).exists_classify m
    exact ⟨r, hr, hcoherent.void, hstatus, hcoherent⟩
  case decidesRef => exact fun code target h => classify_of_decides_ref h m
  case decides =>
    intro code response hcode h
    obtain ⟨r, hr, hstatus, hcoherent⟩ := (Offers.decided h).exists_classify m
    rw [bodyUnder?, if_neg hcode] at hcoherent
    exact ⟨r, hr, hstatus, hcoherent⟩
  case nothing =>
    intro h
    obtain ⟨r, hr, hstatus, hcoherent⟩ := (Offers.undecided (not_decides h)).exists_classify m
    exact ⟨r, hr, hcoherent.void, hstatus, hcoherent⟩

/-- The reference of the model of pets. -/
def petReference : String := "#/components/schemas/Pet"

/-- The source that knows pets alone. -/
def onlyPets : Models :=
  ⟨fun target => if target = petReference then some "Pet" else none, fun _ => none, fun _ => false⟩

/-- A response with a list of pets, and a failure that is never made. -/
def petsListed : Responses := [
  ("500", .ref "#/components/responses/broken"),
  ("200", .inline { content := [("application/json", { schema := some (.inline {
    type := some (.one .array)
    items := some (.ref petReference) }) })] })]

/-- The answer is a list of the model, or of maps where the model is not known; it is void with a
response without content, or with none that decides, and missing with a reference. -/
theorem answers_coherent_petsListed :
    (∃ r, classify onlyPets petsListed = .ok r ∧ r.status = some "200" ∧ r.kind = .array ∧
      r.model = some "Pet" ∧ r.bodyType = .array (.model "Pet") ∧
      ∃ body, Offers petsListed r.status body ∧ r.Coherent onlyPets body) ∧
    (∃ r, classify .none petsListed = .ok r ∧ r.bodyType = .array .map) ∧
    (∃ r, classify onlyPets (("204", .inline {}) :: petsListed) = .ok r ∧
      r.kind = .void ∧ r.status = some "204") ∧
    (∃ r, classify onlyPets [("500", .inline {})] = .ok r ∧ r.kind = .void ∧ r.status = none) ∧
    classify onlyPets (("204", .ref "#/components/responses/gone") :: petsListed)
      = .error (.unresolvedReference "#/components/responses/gone") ∧
    classify onlyPets [("202", .ref "#/components/responses/later")]
      = .error (.unresolvedReference "#/components/responses/later") := by
  obtain ⟨response, hdecides, hreference⟩ : ∃ response,
      Decides petsListed "200" (.inline response) ∧
      modelReference? (body? response) = some (petReference, true) := ⟨_, .ok rfl rfl, rfl⟩
  refine ⟨?listed, ?unknown, ?noContent, ?nothing, ?noContentRef, ?ref⟩
  case listed =>
    obtain ⟨-, -, -, hanswer, -, hevery⟩ := answers_coherent onlyPets petsListed
    obtain ⟨r, hr, hstatus, hcoherent⟩ := hanswer "200" response (by decide) hdecides
    have hlist : r.isList = true := hcoherent.of_reference _ _ hreference
    have hmodel : r.model = some "Pet" := (hcoherent.model_iff _).mpr ⟨_, _, hreference, rfl⟩
    have htype := hcoherent.of_model _ hmodel
    rw [hlist] at htype
    exact ⟨r, hr, hstatus, hcoherent.isList_iff.mp hlist, hmodel, htype, hevery r hr⟩
  case unknown =>
    obtain ⟨-, -, -, hanswer, -⟩ := answers_coherent .none petsListed
    obtain ⟨r, hr, -, hcoherent⟩ := hanswer "200" response (by decide) hdecides
    have hlist : r.isList = true := hcoherent.of_reference _ _ hreference
    have htype := hcoherent.of_unknown _ _ hreference rfl
    rw [hlist] at htype
    exact ⟨r, hr, htype⟩
  case noContent =>
    obtain ⟨-, hvoid, -⟩ := answers_coherent onlyPets (("204", .inline {}) :: petsListed)
    obtain ⟨r, hr, hkind, hstatus, -⟩ := hvoid _ rfl
    exact ⟨r, hr, hkind, hstatus⟩
  case nothing =>
    obtain ⟨-, -, -, -, hvoid, -⟩ := answers_coherent onlyPets [("500", .inline {})]
    obtain ⟨r, hr, hkind, hstatus, -⟩ := hvoid (by simp; decide)
    exact ⟨r, hr, hkind, hstatus⟩
  case noContentRef => exact (answers_coherent onlyPets _).1 _ rfl
  case ref =>
    obtain ⟨-, -, hmissing, -⟩ :=
      answers_coherent onlyPets [("202", .ref "#/components/responses/later")]
    exact hmissing "202" _ (.accepted rfl rfl rfl rfl)

end ApiMethods.Reply
