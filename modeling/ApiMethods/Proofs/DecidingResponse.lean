/-
  ApiMethods.Proofs.DecidingResponse
  ──────────────────────────────────
  **WHAT THE DECIDING RESPONSE DECIDES, AND WHAT IT DOES NOT.**

  The response under `204` decides if there is one, else the one under the first of `200`, `201` and
  `202` (`Decides`).  All of an answer but its headers is read from this response alone; the headers
  come from all responses and are put to it at the end:

      classify m rs  =  answer m rs, with the headers of rs

  The two parts do not look at the same things.  So responses may be CHANGED one by one without
  changing the answer, when their bodies stay, or without changing the headers, when these stay.
-/
import ApiMethods.Proofs.Stages

namespace ApiMethods

open ApiMethods.Source (OrRef)
open Document (Response Responses Schema)
open Inlining (mapInline)

namespace Reply

/-! ## §1. The deciding response. -/

/-- A response decides under its code: it is there, and none is there under a code before it. -/
inductive Decides (rs : Responses) : String → OrRef Response → Prop
  | noContent {x : OrRef Response} : rs.get? "204" = some x → Decides rs "204" x
  | ok {x : OrRef Response} : rs.get? "204" = none → rs.get? "200" = some x → Decides rs "200" x
  | created {x : OrRef Response} : rs.get? "204" = none → rs.get? "200" = none →
      rs.get? "201" = some x → Decides rs "201" x
  | accepted {x : OrRef Response} : rs.get? "204" = none → rs.get? "200" = none →
      rs.get? "201" = none → rs.get? "202" = some x → Decides rs "202" x

theorem Decides.get?_eq {rs : Responses} {code : String} {x : OrRef Response}
    (h : Decides rs code x) : rs.get? code = some x := by
  cases h <;> assumption

/-- The first code that has a response has it. -/
theorem select?_eq_findSome? (rs : Responses) :
    select? rs = decidingCodes.findSome? fun code => (rs.get? code).map fun x => (code, x) := by
  unfold select? selectedCode?
  generalize decidingCodes = codes
  induction codes with
  | nil => rfl
  | cons code rest ih =>
    rw [List.findSome?_cons]
    cases hcode : rs.get? code with
    | some x => simp [Table.has, hcode]
    | none =>
      rw [List.find?_cons_of_neg (by simp [Table.has, hcode])]
      exact ih

/-- **THE COMPILER SELECTS THE DECIDING RESPONSE.** -/
theorem select?_eq_some_iff {rs : Responses} {code : String} {x : OrRef Response} :
    select? rs = some (code, x) ↔ Decides rs code x := by
  rw [select?_eq_findSome?]
  constructor
  · intro h
    simp only [decidingCodes, List.findSome?_cons, List.findSome?_nil] at h
    cases h204 : rs.get? "204" with
    | some y =>
      rw [h204] at h
      cases h
      exact .noContent h204
    | none =>
      cases h200 : rs.get? "200" with
      | some y =>
        rw [h204, h200] at h
        cases h
        exact .ok h204 h200
      | none =>
        cases h201 : rs.get? "201" with
        | some y =>
          rw [h204, h200, h201] at h
          cases h
          exact .created h204 h200 h201
        | none =>
          cases h202 : rs.get? "202" with
          | some y =>
            rw [h204, h200, h201, h202] at h
            cases h
            exact .accepted h204 h200 h201 h202
          | none =>
            rw [h204, h200, h201, h202] at h
            cases h
  · intro h
    cases h <;> simp [decidingCodes, *]

theorem select?_eq_none_iff {rs : Responses} :
    select? rs = none ↔ ∀ code x, ¬ Decides rs code x := by
  simp only [← select?_eq_some_iff]
  rw [Option.eq_none_iff_forall_ne_some]
  exact ⟨fun h code x => h (code, x), fun h e => h e.1 e.2⟩

/-- The deciding response stands under the deciding code. -/
theorem select?_map_fst (rs : Responses) : (select? rs).map (·.1) = selectedCode? rs := by
  cases hc : selectedCode? rs with
  | none => simp [select?, hc]
  | some code =>
    have hhas : rs.has code = true := List.find?_some hc
    obtain ⟨r, hr⟩ := Option.isSome_iff_exists.mp hhas
    simp [select?, hc, hr]

/-! ## §2. An answer in two parts. -/

/-- The body that counts of a response: under `204` there is none. -/
def bodyUnder? (code : String) (response : Response) : Option (String × Option Schema) :=
  if code = "204" then none else body? response

/-- What a response decides on under a code. -/
def ofResponse (m : Models) (code : String) (response : Response) : Reply :=
  match bodyUnder? code response with
  | none => { status := some code }
  | some (mediaType, s) => ofBody m mediaType s { status := some code }

/-- An answer without its headers. -/
def answer (m : Models) (rs : Responses) : Except SkipReason Reply :=
  match select? rs with
  | none => .ok {}
  | some (_, .ref target) => .error (.unresolvedReference target)
  | some (code, .inline response) => .ok (ofResponse m code response)

/-- A body has no part in the headers. -/
theorem ofBody_headers (m : Models) (mediaType : String) (s : Option Schema) (r : Reply)
    (headers : List ReplyHeader) :
    ofBody m mediaType s { r with headers := headers }
      = { ofBody m mediaType s r with headers := headers } := by
  cases s with
  | none => rfl
  | some s =>
    simp only [ofBody, ofSchema]
    cases Models.reference? s with
    | none => rfl
    | some target => rfl

/-- **THE HEADERS ARE PUT TO AN ANSWER AT THE END.** -/
theorem classify_eq (m : Models) (rs : Responses) :
    classify m rs = (answer m rs).map fun r =>
      { r with headers := collectHeaders rs (selectedCode? rs) } := by
  rw [← select?_map_fst]
  unfold classify answer
  rcases select? rs with _ | ⟨code, target | response⟩
  · rfl
  · rfl
  · show _ = Except.ok { ofResponse m code response with headers := collectHeaders rs (some code) }
    unfold ofResponse bodyUnder?
    by_cases hempty : code = "204"
    · simp only [if_pos hempty]
    · simp only [if_neg hempty]
      cases body? response with
      | none => rfl
      | some b => exact congrArg Except.ok (ofBody_headers m b.1 b.2 { status := some code } _)

/-- What is classified is an answer with its headers. -/
theorem exists_of_classify {m : Models} {rs : Responses} {r : Reply} (h : classify m rs = .ok r) :
    ∃ a, answer m rs = .ok a ∧
      r = { a with headers := collectHeaders rs (selectedCode? rs) } := by
  rw [classify_eq] at h
  obtain ⟨a, ha, hr⟩ := map_eq_ok h
  exact ⟨a, ha, hr.symm⟩

end Reply

/-! ## §3. Changed responses. -/

/-- Responses changed one by one; references stay. -/
def Document.Responses.change (f : Response → Response) (rs : Responses) : Responses :=
  Table.mapValues (mapInline f) rs

namespace Reply

variable (f : Response → Response) (rs : Responses)

theorem get?_change (code : String) :
    (rs.change f).get? code = (rs.get? code).map (mapInline f) :=
  Table.get?_mapValues _ _ _

theorem selectedCode?_change : selectedCode? (rs.change f) = selectedCode? rs := by
  unfold selectedCode? Table.has
  simp only [get?_change, Option.isSome_map]

/-- The same response decides, changed. -/
theorem select?_change :
    select? (rs.change f) = (select? rs).map fun e => (e.1, mapInline f e.2) := by
  unfold select?
  rw [selectedCode?_change]
  cases selectedCode? rs with
  | none => rfl
  | some code =>
    show ((rs.change f).get? code).bind _ = ((rs.get? code).bind _).map _
    rw [get?_change]
    cases rs.get? code <;> rfl

theorem inOrder_change (selected : Option String) :
    inOrder (rs.change f) selected = (inOrder rs selected).map (mapInline f) := by
  have hfirst : (selected.bind (rs.change f).get?).toList
      = (selected.bind rs.get?).toList.map (mapInline f) := by
    cases selected with
    | none => rfl
    | some code =>
      show ((rs.change f).get? code).toList = (rs.get? code).toList.map (mapInline f)
      rw [get?_change]
      cases rs.get? code <;> rfl
  unfold inOrder
  rw [hfirst, List.map_append]
  unfold Document.Responses.change Table.mapValues
  rw [List.filter_map, List.map_map, List.map_map]
  rfl

/-- Whether there is an answer, and why not, does not depend on what the responses say. -/
theorem answer_change_map {α : Type} (m m' : Models) (a : α) :
    (answer m' (rs.change f)).map (fun _ => a) = (answer m rs).map fun _ => a := by
  unfold answer
  rw [select?_change]
  rcases select? rs with _ | ⟨code, target | response⟩ <;> rfl

variable {f}

/-- **WITH THE SAME BODIES THE ANSWER IS THE SAME**, headers apart. -/
theorem answer_change (hbody : ∀ r, body? (f r) = body? r) (m : Models) :
    answer m (rs.change f) = answer m rs := by
  unfold answer
  rw [select?_change]
  rcases select? rs with _ | ⟨code, target | response⟩
  · rfl
  · rfl
  · show Except.ok (ofResponse m code (f response)) = .ok (ofResponse m code response)
    unfold ofResponse bodyUnder?
    rw [hbody]

/-- **WITH THE SAME HEADERS THE HEADERS OF THE ANSWER ARE THE SAME.** -/
theorem collectHeaders_change
    (hheaders : ∀ found r, addHeaders found (.inline (f r)) = addHeaders found (.inline r))
    (selected : Option String) :
    collectHeaders (rs.change f) selected = collectHeaders rs selected := by
  have hadd : ∀ found x, addHeaders found (mapInline f x) = addHeaders found x := by
    rintro found (target | r)
    · rfl
    · exact hheaders found r
  unfold collectHeaders
  rw [inOrder_change, List.foldl_map]
  simp only [hadd]

end Reply

end ApiMethods
