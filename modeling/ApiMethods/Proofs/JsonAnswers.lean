/-
  ApiMethods.Proofs.JsonAnswers
  ─────────────────────────────
  **WHEN AN ANSWER IS FOUND TO BE JSON.**

  A response may declare its body in several media types, and one of them is taken.  Requests compare
  KINDS: JSON is JSON in capitals, with white space around it or with parameters.  Answers compare
  TEXTS: what is looked for is `application/json` in this very spelling, and without it the first
  media type is taken, whatever it is:

      declared, in this order                              request     answer
      text/plain, application/json                         JSON        JSON
      Application/JSON, text/plain                         JSON        JSON
      text/plain, application/json; charset=utf-8          JSON        text

  So JSON that is declared is found unless it is HIDDEN (`HidesJson`): spelled otherwise, and behind a
  media type that is not JSON.  `json_answers` says that there is no other way to miss it, and that
  what is taken is read with its own schema.
-/
import ApiMethods.Proofs.BodyPlans

namespace ApiMethods

open ApiMethods.Source (OrRef)
open Body (Kind)
open Document (Content MediaType RequestBody Response Responses)

/-! ## §1. Requests. -/

/-- **A REQUEST BODY IS JSON WHERE JSON IS DECLARED**, in any spelling, and no form. -/
theorem Body.exists_json_plan (m : Models) {b : RequestBody}
    (hjson : ∃ t ∈ b.content.keys, Kind.of t = .json)
    (hform : ∀ t ∈ b.content.keys, Kind.of t ≠ .multipart ∧ Kind.of t ≠ .form) :
    ∃ p, plan m b = some p ∧ p.kind = .json := by
  obtain ⟨t, ht, hkind⟩ := hjson
  cases hplan : plan m b with
  | none =>
    have hnone : b.content = [] := (plan_eq_none m b).mp hplan
    rw [hnone] at ht
    cases ht
  | some p =>
    obtain ⟨hfirst, hleast⟩ := (coherent_of_plan hplan).first
    obtain ⟨hmem, hselected⟩ := List.mem_filter.mp (List.mem_of_mem_head? hfirst)
    have hnot := hform _ hmem
    rw [of_decide_eq_true hselected] at hnot
    have hrank := hleast t ht
    rw [hkind] at hrank
    refine ⟨p, rfl, ?_⟩
    -- only the two kinds of forms come before JSON
    cases hp : p.kind with
    | multipart => exact absurd hp hnot.1
    | form => exact absurd hp hnot.2
    | json => rfl
    | plain | html | xml | other =>
      rw [hp] at hrank
      exact absurd hrank (by decide)

/-! ## §2. Answers. -/

namespace Reply

/-- JSON is not declared in the spelling that answers look for, and not by the first media type. -/
def HidesJson (c : Content) : Prop :=
  c.get? jsonMediaType = none ∧ ∀ e ∈ c.head?, Kind.of e.1 ≠ .json

theorem kind_jsonMediaType : Kind.of jsonMediaType = .json := by decide +kernel

/-- The entry that an answer is read from. -/
inductive Taken (c : Content) : String → MediaType → Prop
  | exact {media : MediaType} : c.get? jsonMediaType = some media → Taken c jsonMediaType media
  | first {t : String} {media : MediaType} : c.get? jsonMediaType = none →
      c.head? = some (t, media) → Taken c t media

theorem Taken.get?_eq {c : Content} {t : String} {media : MediaType} (h : Taken c t media) :
    c.get? t = some media := by
  cases h with
  | exact hjson => exact hjson
  | first _ hfirst =>
    obtain ⟨rest, rfl⟩ := List.head?_eq_some_iff.mp hfirst
    simp [Table.get?]

/-- **WHAT IS TAKEN IS JSON UNLESS JSON IS HIDDEN.** -/
theorem Taken.kind_iff {c : Content} {t : String} {media : MediaType} (h : Taken c t media) :
    Kind.of t = .json ↔ ¬ HidesJson c := by
  unfold HidesJson
  cases h with
  | exact hjson => exact iff_of_true kind_jsonMediaType (by simp [hjson])
  | first hnone hfirst => simp [hnone, hfirst]

/-- Without a schema of its own the body of a response is what is taken of its content. -/
theorem exists_taken {response : Response} (hschema : response.schema = none)
    (hcontent : response.content ≠ []) :
    ∃ t media, Taken response.content t media ∧ body? response = some (t, media.schema) := by
  unfold body?
  rw [hschema]
  cases hjson : response.content.get? jsonMediaType with
  | some media => exact ⟨jsonMediaType, media, .exact hjson, rfl⟩
  | none =>
    obtain ⟨⟨t, media⟩, rest, hfirst⟩ := List.exists_cons_of_ne_nil hcontent
    rw [hfirst] at hjson ⊢
    exact ⟨t, media, .first hjson rfl, rfl⟩

/-- What is read from a body has no headers. -/
theorem Reads.withoutHeaders {m : Models} {status : Option String}
    {body : Option (String × Option Document.Schema)} {r : Reply} (h : Reads m status body r) :
    Reads m status body r.withoutHeaders := by
  cases h with
  | nothing => exact .nothing
  | untyped => exact .untyped
  | model href => exact .model href
  | generic href hlist => exact .generic href hlist

/-- An answer under another code than `204` is read from the body of the deciding response. -/
theorem exists_classify_of_decides (m : Models) {rs : Responses} {code : String}
    {response : Response} (hdecides : Decides rs code (.inline response)) (hcode : code ≠ "204") :
    ∃ r, classify m rs = .ok r ∧ Reads m (some code) (body? response) r.withoutHeaders := by
  have hreads := reads_ofResponse m code response
  rw [bodyUnder?, if_neg hcode] at hreads
  have hanswer : answer m rs = .ok (ofResponse m code response) := by
    unfold answer
    rw [select?_eq_some_iff.mpr hdecides]
  rw [classify_eq, hanswer]
  -- the headers of an answer come from elsewhere
  exact ⟨_, rfl, hreads.withoutHeaders⟩

/-- **JSON ANSWERS.**  Where the deciding response declares JSON, in any spelling, a request body with
this content is JSON unless it is a form.  The answer has one of the declared media types, and is
read with the schema of this one; it is JSON exactly when JSON is not hidden. -/
theorem json_answers (m : Models) {rs : Responses} {code : String} {response : Response}
    (hdecides : Decides rs code (.inline response)) (hcode : code ≠ "204")
    (hschema : response.schema = none) (hjson : ∃ t ∈ response.content.keys, Kind.of t = .json) :
    (∀ b : RequestBody, b.content = response.content →
      (∀ t ∈ b.content.keys, Kind.of t ≠ .multipart ∧ Kind.of t ≠ .form) →
        ∃ p, Body.plan m b = some p ∧ p.kind = .json) ∧
    ∃ r t media, classify m rs = .ok r ∧ r.contentType = some t ∧
      response.content.get? t = some media ∧
      Reads m (some code) (some (t, media.schema)) r.withoutHeaders ∧
      (Kind.of t = .json ↔ ¬ HidesJson response.content) := by
  constructor
  · intro b hb hform
    exact Body.exists_json_plan m (by rwa [hb]) hform
  · have hcontent : response.content ≠ [] := by
      rintro hnone
      rw [hnone] at hjson
      obtain ⟨t, ht, -⟩ := hjson
      cases ht
    obtain ⟨t, media, htaken, hbody⟩ := exists_taken hschema hcontent
    obtain ⟨r, hr, hreads⟩ := exists_classify_of_decides m hdecides hcode
    rw [hbody] at hreads
    have htype : r.contentType = some t := hreads.coherent.contentType
    exact ⟨r, t, media, hr, htype, htaken.get?_eq, hreads, htaken.kind_iff⟩

/-- The schema of a text. -/
def textSchema : Document.Schema := .inline { type := some (.one .string) }

/-- Success comes as JSON, in capitals, or as a text. -/
def shownJson : Responses := [
  ("200", .inline { content := [
    ("Application/JSON", { schema := some (.ref petReference) }),
    ("text/plain", { schema := some textSchema })] })]

/-- JSON that comes first is found, and its schema means the model of pets. -/
theorem json_answers_shownJson :
    ∃ r, classify onlyPets shownJson = .ok r ∧ r.contentType = some "Application/JSON" ∧
      r.model = some "Pet" ∧ r.bodyType = .model "Pet" := by
  have hdecides : Decides shownJson "200" _ := .ok rfl rfl
  obtain ⟨-, r, t, media, hr, htype, hmedia, hreads, hkind⟩ :=
    json_answers onlyPets hdecides (by decide) rfl
      ⟨"Application/JSON", by decide +kernel, by decide +kernel⟩
  have hjson : Kind.of t = .json := by
    refine hkind.mpr fun hhides => hhides.2 _ rfl ?_
    decide +kernel
  have hmem := Table.mem_of_get? hmedia
  simp only [List.mem_cons, List.not_mem_nil, or_false] at hmem
  rcases hmem with hmem | hmem
  · cases hmem
    have hmodel : r.model = some "Pet" :=
      (hreads.coherent.model_iff "Pet").mpr ⟨petReference, false, rfl, rfl⟩
    refine ⟨r, hr, htype, hmodel, ?_⟩
    have hlist : r.isList = false := hreads.coherent.of_reference petReference false rfl
    have hbody : r.bodyType = listOf r.isList (.model "Pet") :=
      hreads.coherent.of_model "Pet" hmodel
    rwa [hlist] at hbody
  · cases hmem
    exact absurd hjson (by decide +kernel)

/-- Success comes as a text, or as JSON with a charset. -/
def hiddenJson : Responses := [
  ("200", .inline { content := [
    ("text/plain", { schema := some textSchema }),
    ("application/json; charset=utf-8", { schema := some (.ref petReference) })] })]

/-- **JSON MAY BE DECLARED AND MISSED**: this answer is a text. -/
theorem exists_json_missed :
    ¬ ∀ (m : Models) (rs : Responses) (code : String) (response : Response),
      Decides rs code (.inline response) → code ≠ "204" → response.schema = none →
      (∃ t ∈ response.content.keys, Kind.of t = .json) →
        ∃ r t, classify m rs = .ok r ∧ r.contentType = some t ∧ Kind.of t = .json := by
  intro hall
  obtain ⟨r, t, hr, htype, hkind⟩ := hall onlyPets hiddenJson "200" _ (.ok rfl rfl) (by decide) rfl
    ⟨"application/json; charset=utf-8", by decide +kernel, by decide +kernel⟩
  have hanswer : classify onlyPets hiddenJson = .ok
      { kind := .object
        status := some "200"
        contentType := some "text/plain"
        bodyType := .string } := rfl
  cases hanswer.symm.trans hr
  cases htype
  exact absurd hkind (by decide +kernel)

end Reply

end ApiMethods
