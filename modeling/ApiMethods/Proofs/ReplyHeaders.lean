/-
  ApiMethods.Proofs.ReplyHeaders
  ──────────────────────────────
  **THE HEADERS OF AN ANSWER, READ OFF ITS RESPONSES.**

  Headers are collected response by response into one growing list.  Here the list is read
  off the sequence of all headers that are not references, those of the selected response
  first: it has the ones whose name, up to the case of ASCII letters, does not stand further
  left.

  STEP: adding a declared header keeps this form (`firstOfEach_append`).  RUN: so does
  adding the headers of all responses (`collectHeaders_eq`).

  The sequence is that of the document with the deciding response drawn to its front
  (`InSequence`).  Two answers have the same headers when nothing but the bodies of their
  responses differs, and are the same but for their headers when nothing but these differs;
  `headers_of_responses` puts all of this together.
-/
import Mathlib.Data.List.Induction
import Mathlib.Data.List.Nodup
import ApiMethods.Proofs.DecidingResponse

namespace ApiMethods

open ApiMethods.Source (OrRef)
open Document (Header Response Responses)

namespace Reply

/-! ## §1. Declared headers. -/

/-- The headers of a response that are not references; a response that is one has none. -/
def headersOf : OrRef Response → List (String × Header)
  | .ref _ => []
  | .inline r => r.headers.filterMap fun e => e.2.inline?.map fun h => (e.1, h)

/-- The headers of all responses that are not references, those of the selected response first. -/
def declaredHeaders (rs : Responses) (selected : Option String) : List (String × Header) :=
  (inOrder rs selected).flatMap headersOf

/-- Whether a header has the same name as one of some headers. -/
def named (l : List (String × Header)) (e : String × Header) : Bool :=
  l.any fun f => sameHeader f.1 e.1

/-- The headers whose name does not stand further left. -/
def firstOfEach (l : List (String × Header)) : List (String × Header) :=
  (l.zipIdx.filter fun p => !named (l.take p.2) p.1).map (·.1)

/-- What an answer says of a header. -/
def headerOf (e : String × Header) : ReplyHeader :=
  ⟨e.1, ValueType.ofSlot e.2.effectiveSchema, e.2.required⟩

/-- The headers that come with an answer. -/
def exposedHeaders (rs : Responses) : List (String × Header) :=
  firstOfEach (declaredHeaders rs (selectedCode? rs))

/-! ## §2. Step: one header more. -/

theorem sameHeader_trans {a b c : String} (hab : sameHeader a b = true)
    (hbc : sameHeader b c = true) : sameHeader a c = true := by
  simp only [sameHeader, decide_eq_true_eq] at *
  exact hab.trans hbc

/-- **Step**: behind other headers, one more is kept unless its name is there already. -/
theorem firstOfEach_append (l : List (String × Header)) (e : String × Header) :
    firstOfEach (l ++ [e]) = firstOfEach l ++ if named l e then [] else [e] := by
  unfold firstOfEach
  rw [List.zipIdx_append, List.filter_append, List.map_append]
  congr 1
  · -- what stands left of a position in `l` does not change
    congr 1
    refine List.filter_congr fun p hp => ?_
    have hlt : p.2 < l.length := by simpa using List.snd_lt_of_mem_zipIdx hp
    rw [List.take_append_of_le_length (Nat.le_of_lt hlt)]
  · by_cases hnamed : named l e <;> simp [hnamed]

/-- The names that are kept are the names that are there. -/
theorem named_firstOfEach (l : List (String × Header)) (e : String × Header) :
    named (firstOfEach l) e = named l e := by
  induction l using List.reverseRecOn with
  | nil => rfl
  | append_singleton l f ih =>
    have happend : ∀ a b : List (String × Header), named (a ++ b) e = (named a e || named b e) :=
      fun a b => List.any_append
    rw [firstOfEach_append, happend, happend, ih]
    by_cases hf : named l f
    · -- `f` is dropped for a header of its name, which then has the name of `e` too
      rw [if_pos hf]
      by_cases he : named [f] e
      · obtain ⟨g, hg, hgf⟩ := List.any_eq_true.mp hf
        have hfe : sameHeader f.1 e.1 = true := by simpa [named] using he
        have hl : named l e = true := List.any_eq_true.mpr ⟨g, hg, sameHeader_trans hgf hfe⟩
        rw [hl, Bool.true_or, Bool.true_or]
      · rw [Bool.not_eq_true] at he
        rw [he]
        rfl
    · rw [if_neg hf]

/-! ## §3. Run: the headers of all responses. -/

/-- Adding a header, or a reference to one, to the first headers of a sequence. -/
theorem addHeader_firstOfEach (l : List (String × Header)) (name : String) (h : OrRef Header) :
    addHeader ((firstOfEach l).map headerOf) name h
      = (firstOfEach (l ++ (h.inline?.map fun h => (name, h)).toList)).map headerOf := by
  cases h with
  | ref target => simp [addHeader, OrRef.inline?]
  | inline h =>
    have hany : (((firstOfEach l).map headerOf).any fun f => sameHeader f.name name)
        = named l (name, h) := by
      rw [← named_firstOfEach, List.any_map]
      rfl
    simp only [addHeader, OrRef.inline?, Option.map_some, Option.toList_some, hany,
      firstOfEach_append]
    by_cases hn : named l (name, h)
    · simp [hn]
    · simp [hn, headerOf]

theorem addHeaders_firstOfEach (l : List (String × Header)) (r : OrRef Response) :
    addHeaders ((firstOfEach l).map headerOf) r
      = (firstOfEach (l ++ headersOf r)).map headerOf := by
  cases r with
  | ref target => simp [addHeaders, headersOf]
  | inline r =>
    show r.headers.foldl (fun found e => addHeader found e.1 e.2) _
      = (firstOfEach (l ++ r.headers.filterMap fun e => e.2.inline?.map fun h => (e.1, h))).map _
    generalize r.headers = hs
    induction hs generalizing l with
    | nil => simp
    | cons e rest ih =>
      obtain ⟨name, h⟩ := e
      rw [List.foldl_cons, addHeader_firstOfEach, ih]
      cases h with
      | ref target => simp [OrRef.inline?]
      | inline h => simp [OrRef.inline?]

/-- **Run**: the collected headers are the first of each name. -/
theorem collectHeaders_eq (rs : Responses) (selected : Option String) :
    collectHeaders rs selected
      = (firstOfEach (declaredHeaders rs selected)).map headerOf := by
  have hrun : ∀ (l : List (String × Header)) (rest : List (OrRef Response)),
      rest.foldl addHeaders ((firstOfEach l).map headerOf)
        = (firstOfEach (l ++ rest.flatMap headersOf)).map headerOf := by
    intro l rest
    induction rest generalizing l with
    | nil => simp
    | cons r rest ih =>
      rw [List.foldl_cons, addHeaders_firstOfEach, ih, List.flatMap_cons, List.append_assoc]
  exact hrun [] (inOrder rs selected)

/-! ## §4. Answers. -/

/-- **EVERY ANSWER COMES WITH THESE HEADERS**, whatever its body is. -/
theorem headers_of_classify {m : Models} {rs : Responses} {r : Reply}
    (h : classify m rs = .ok r) : r.headers = (exposedHeaders rs).map headerOf := by
  obtain ⟨a, -, rfl⟩ := exists_of_classify h
  exact collectHeaders_eq rs (selectedCode? rs)

/-! ## §5. One of each name. -/

/-- No two headers that are kept have the same name. -/
theorem pairwise_firstOfEach (l : List (String × Header)) :
    (firstOfEach l).Pairwise fun a b => sameHeader a.1 b.1 = false := by
  induction l using List.reverseRecOn with
  | nil => exact .nil
  | append_singleton l e ih =>
    rw [firstOfEach_append]
    by_cases hnamed : named l e
    · rw [if_pos hnamed, List.append_nil]
      exact ih
    · rw [if_neg hnamed, List.pairwise_append]
      refine ⟨ih, List.pairwise_singleton _ _, fun a ha b hb => ?_⟩
      rw [List.mem_singleton.mp hb]
      rw [← named_firstOfEach, Bool.not_eq_true] at hnamed
      exact Bool.eq_false_iff.mpr (List.any_eq_false.mp hnamed a ha)

/-- What is kept stands in the order in which it stood. -/
theorem firstOfEach_sublist (l : List (String × Header)) : (firstOfEach l).Sublist l := by
  have hkept := (List.filter_sublist (p := fun p => !named (l.take p.2) p.1) (l := l.zipIdx)).map
    Prod.fst
  rwa [List.zipIdx_map_fst] at hkept

/-- The name of every header is kept. -/
theorem exists_mem_firstOfEach {l : List (String × Header)} {e : String × Header} (he : e ∈ l) :
    ∃ f ∈ firstOfEach l, sameHeader f.1 e.1 = true := by
  have hnamed : named l e = true := List.any_eq_true.mpr ⟨e, he, decide_eq_true rfl⟩
  rw [← named_firstOfEach] at hnamed
  exact List.any_eq_true.mp hnamed

/-! ## §6. In which order. -/

/-- The responses in the order in which their headers count: the deciding one comes first, and the
    others follow as they are declared. -/
inductive InSequence (rs : Responses) : List (OrRef Response) → Prop
  | undecided : (∀ code x, ¬ Decides rs code x) → InSequence rs rs.values
  | decided {before after : Responses} {code : String} {x : OrRef Response} :
      Decides rs code x → rs = before ++ (code, x) :: after →
      InSequence rs (x :: Table.values (before ++ after))

/-- Without its key a table has the entries before it and behind it. -/
theorem filter_key_ne {κ α : Type} [DecidableEq κ] {before after : Table κ α} {e : κ × α}
    (h : Table.Distinct (before ++ e :: after)) :
    (before ++ e :: after).filter (fun e' => e'.1 ≠ e.1) = before ++ after := by
  have hne : ∀ e' ∈ before ++ after, e'.1 ≠ e.1 := by
    intro e' he' heq
    have hnodup : (e.1 :: (before ++ after).map (·.1)).Nodup := by
      rw [List.map_append, ← List.nodup_middle]
      simpa [Table.Distinct, Table.keys] using h
    exact (List.nodup_cons.mp hnodup).1 (heq ▸ List.mem_map_of_mem he')
  rw [List.filter_append, List.filter_cons_of_neg (by simp), ← List.filter_append]
  exact List.filter_eq_self.mpr fun e' he' => decide_eq_true (hne e' he')

theorem inSequence_inOrder {rs : Responses} (hdistinct : rs.Distinct) :
    InSequence rs (inOrder rs (selectedCode? rs)) := by
  rw [← select?_map_fst]
  cases hselect : select? rs with
  | none =>
    have hall : inOrder rs none = rs.values := by
      have hkept : rs.filter (fun e => some e.1 ≠ none) = rs :=
        List.filter_eq_self.mpr fun e _ => rfl
      show (rs.filter fun e => some e.1 ≠ none).map (·.2) = rs.values
      rw [hkept]
      rfl
    exact hall ▸ .undecided (select?_eq_none_iff.mp hselect)
  | some e =>
    obtain ⟨code, x⟩ := e
    have hdecides := select?_eq_some_iff.mp hselect
    have hget := hdecides.get?_eq
    obtain ⟨before, after, hsplit⟩ := List.append_of_mem (Table.mem_of_get? hget)
    -- where codes are distinct, only the deciding response is taken out of its place
    have hothers : rs.filter (fun e => some e.1 ≠ some code) = before ++ after := by
      have hfilter := filter_key_ne (hsplit ▸ hdistinct)
      rw [← hsplit] at hfilter
      simpa using hfilter
    have hfirst : inOrder rs (some code) = x :: Table.values (before ++ after) := by
      show (rs.get? code).toList ++ (rs.filter fun e => some e.1 ≠ some code).map (·.2) = _
      rw [hget, hothers]
      rfl
    exact hfirst ▸ .decided hdecides hsplit

/-- The sequence has all responses. -/
theorem InSequence.mem_iff {rs : Responses} {sequence : List (OrRef Response)}
    (h : InSequence rs sequence) {x : OrRef Response} : x ∈ sequence ↔ ∃ code, (code, x) ∈ rs := by
  have hvalues : ∀ t : Responses, x ∈ t.values ↔ ∃ code, (code, x) ∈ t := by
    simp [Table.values]
  cases h with
  | undecided _ => exact hvalues rs
  | decided _ hsplit =>
    rw [List.mem_cons, hvalues, hsplit]
    simp only [List.mem_append, List.mem_cons, Prod.mk.injEq]
    grind

theorem mem_headersOf {response : Response} {e : String × Header} :
    e ∈ headersOf (.inline response) ↔ (e.1, .inline e.2) ∈ response.headers := by
  show e ∈ response.headers.filterMap _ ↔ _
  rw [List.mem_filterMap]
  constructor
  · rintro ⟨⟨name, x⟩, hmem, hx⟩
    cases x with
    | ref target => cases hx
    | inline header =>
      cases hx
      exact hmem
  · exact fun hmem => ⟨_, hmem, rfl⟩

/-- The headers in the sequence are those that some response declares. -/
theorem InSequence.mem_headers_iff {rs : Responses} {sequence : List (OrRef Response)}
    (h : InSequence rs sequence) {e : String × Header} :
    e ∈ sequence.flatMap headersOf ↔
      ∃ code response, (code, .inline response) ∈ rs ∧ (e.1, .inline e.2) ∈ response.headers := by
  rw [List.mem_flatMap]
  constructor
  · rintro ⟨x, hx, he⟩
    obtain ⟨code, hcode⟩ := h.mem_iff.mp hx
    cases x with
    | ref target => cases he
    | inline response => exact ⟨code, response, hcode, mem_headersOf.mp he⟩
  · rintro ⟨code, response, hcode, he⟩
    exact ⟨.inline response, h.mem_iff.mpr ⟨code, hcode⟩, mem_headersOf.mpr he⟩

end Reply

/-! ## §7. What does not matter to headers, and to what headers do not matter. -/

/-- A response without its references to headers. -/
def Document.Response.withoutHeaderReferences (r : Response) : Response :=
  { r with headers := r.headers.filter fun e => e.2.inline?.isSome }

/-- Nothing of a response but its headers. -/
def Document.Response.onlyHeaders (r : Response) : Response := { headers := r.headers }

/-- All of a response but its headers. -/
def Document.Response.withoutHeaders (r : Response) : Response := { r with headers := [] }

namespace Reply

/-- All of an answer but its headers. -/
def withoutHeaders (r : Reply) : Reply := { r with headers := [] }

theorem addHeaders_withoutHeaderReferences (found : List ReplyHeader) (r : Response) :
    addHeaders found (.inline r.withoutHeaderReferences) = addHeaders found (.inline r) := by
  show (r.headers.filter _).foldl _ found = r.headers.foldl _ found
  rw [List.foldl_filter]
  congr 1
  funext found e
  cases e.2 <;> rfl

/-- **A REFERENCE TO A HEADER COUNTS FOR NOTHING**, and hides none. -/
theorem classify_withoutHeaderReferences (m : Models) (rs : Responses) :
    classify m (rs.change Response.withoutHeaderReferences) = classify m rs := by
  have hbody : ∀ r : Response, body? r.withoutHeaderReferences = body? r := fun _ => rfl
  rw [classify_eq, classify_eq, answer_change rs hbody, selectedCode?_change,
    collectHeaders_change rs addHeaders_withoutHeaderReferences]

/-- The headers of an answer are collected from the headers alone. -/
theorem map_headers_classify (m m' : Models) (rs : Responses) :
    (classify m' (rs.change Response.onlyHeaders)).map (·.headers)
      = (classify m rs).map (·.headers) := by
  have hmap : ∀ m (rs : Responses), (classify m rs).map (·.headers)
      = (answer m rs).map fun _ => collectHeaders rs (selectedCode? rs) := by
    intro m rs
    rw [classify_eq]
    cases answer m rs <;> rfl
  have hheaders : ∀ found (r : Response),
      addHeaders found (.inline r.onlyHeaders) = addHeaders found (.inline r) := fun _ _ => rfl
  rw [hmap, hmap, selectedCode?_change, collectHeaders_change rs hheaders]
  exact answer_change_map _ rs m m' _

/-- The rest of an answer is read from the rest of the responses. -/
theorem map_withoutHeaders_classify (m : Models) (rs : Responses) :
    (classify m (rs.change Response.withoutHeaders)).map withoutHeaders
      = (classify m rs).map withoutHeaders := by
  have hbody : ∀ r : Response, body? r.withoutHeaders = body? r := fun _ => rfl
  rw [classify_eq, classify_eq, answer_change rs hbody]
  cases answer m rs <;> rfl

/-! ## §8. The headers of an answer. -/

/-- **WHAT THE HEADERS OF AN ANSWER ARE, AND WHAT THEY DEPEND ON.**  They are the first of each name,
up to the case of ASCII letters, in the sequence that begins with the deciding response, and every
header that a response declares is among them by its name.  References to headers do not count.
Headers depend on headers and codes alone, and nothing else in an answer depends on them. -/
theorem headers_of_responses (rs : Responses) (hdistinct : rs.Distinct) :
    (∀ m r, classify m rs = .ok r →
      (∃ sequence, InSequence rs sequence ∧
        r.headers = (firstOfEach (sequence.flatMap headersOf)).map headerOf) ∧
      r.headers.Pairwise (fun a b => sameHeader a.name b.name = false) ∧
      (∀ code response name header, (code, .inline response) ∈ rs →
        (name, .inline header) ∈ response.headers →
          ∃ h ∈ r.headers, sameHeader h.name name = true) ∧
      (r.hasHeaders = true ↔ ∃ code response name header, (code, .inline response) ∈ rs ∧
        (name, .inline header) ∈ response.headers)) ∧
    (∀ m, classify m (rs.change Response.withoutHeaderReferences) = classify m rs) ∧
    (∀ (m m' : Models) (rs' : Responses),
      rs'.change Response.onlyHeaders = rs.change Response.onlyHeaders →
        (classify m' rs').map (·.headers) = (classify m rs).map (·.headers)) ∧
    ∀ (m : Models) (rs' : Responses),
      rs'.change Response.withoutHeaders = rs.change Response.withoutHeaders →
        (classify m rs').map withoutHeaders = (classify m rs).map withoutHeaders := by
  refine ⟨fun m r h => ?_, fun m => classify_withoutHeaderReferences m rs,
    fun m m' rs' hsame => ?_, fun m rs' hsame => ?_⟩
  · have hsequence := inSequence_inOrder hdistinct
    have hheaders : r.headers
        = (firstOfEach ((inOrder rs (selectedCode? rs)).flatMap headersOf)).map headerOf :=
      headers_of_classify h
    generalize inOrder rs (selectedCode? rs) = sequence at hsequence hheaders
    have hnamed : ∀ code response name header, (code, .inline response) ∈ rs →
        (name, .inline header) ∈ response.headers →
          ∃ h ∈ r.headers, sameHeader h.name name = true := by
      intro code response name header hresponse hheader
      have hmem : (name, header) ∈ sequence.flatMap headersOf :=
        hsequence.mem_headers_iff.mpr ⟨code, response, hresponse, hheader⟩
      obtain ⟨f, hf, hsame⟩ := exists_mem_firstOfEach hmem
      rw [hheaders]
      exact ⟨headerOf f, List.mem_map_of_mem hf, hsame⟩
    have hsome : r.hasHeaders = true ↔ ∃ h, h ∈ r.headers := by
      unfold hasHeaders
      rw [Bool.not_eq_true', List.isEmpty_eq_false_iff_exists_mem]
    refine ⟨⟨sequence, hsequence, hheaders⟩, ?_, hnamed, ?_⟩
    · rw [hheaders, List.pairwise_map]
      exact pairwise_firstOfEach _
    · rw [hsome]
      constructor
      · rintro ⟨h, hh⟩
        rw [hheaders] at hh
        obtain ⟨e, he, -⟩ := List.mem_map.mp hh
        obtain ⟨code, response, hresponse, hheader⟩ :=
          hsequence.mem_headers_iff.mp ((firstOfEach_sublist _).subset he)
        exact ⟨code, response, e.1, e.2, hresponse, hheader⟩
      · rintro ⟨code, response, name, header, hresponse, hheader⟩
        obtain ⟨h, hh, -⟩ := hnamed code response name header hresponse hheader
        exact ⟨h, hh⟩
  · rw [← map_headers_classify m' m' rs', hsame, map_headers_classify]
  · rw [← map_withoutHeaders_classify, hsame, map_withoutHeaders_classify]

/-- A failure says how often one may ask, and when again; success refers to the first of these, in
capitals, and says which page it is. -/
def pageResponses : Responses := [
  ("429", .inline { headers := [
    ("x-rate", .inline { type := some .integer }),
    ("Retry-After", .inline { required := true })] }),
  ("200", .inline {
    content := [("text/plain", {})]
    headers := [("X-RATE", .ref "#/components/headers/rate"), ("X-Page", .inline {})] })]

/-- The header of success comes first, and its reference hides nothing; without its content, and
with other models, the answer has the same headers, and without the headers the same body. -/
theorem headers_of_responses_pageResponses :
    pageResponses.Distinct ∧
    (∃ r, classify .none pageResponses = .ok r ∧
      r.headers.map (·.name) = ["X-Page", "x-rate", "Retry-After"] ∧
      r.headers.Pairwise (fun a b => sameHeader a.name b.name = false) ∧
      r.hasHeaders = true) ∧
    (classify ⟨some, fun _ => none, fun _ => false⟩ (pageResponses.change Response.onlyHeaders)).map
      (·.headers) = (classify .none pageResponses).map (·.headers) ∧
    (classify .none (pageResponses.change Response.withoutHeaders)).map withoutHeaders
      = (classify .none pageResponses).map withoutHeaders := by
  have hdistinct : pageResponses.Distinct := show (Table.keys pageResponses).Nodup by decide
  obtain ⟨hanswer, -, hheaders, hrest⟩ := headers_of_responses pageResponses hdistinct
  refine ⟨hdistinct, ?_, hheaders _ _ _ rfl, hrest _ _ rfl⟩
  obtain ⟨r, hr, hnames⟩ : ∃ r, classify .none pageResponses = .ok r ∧
      r.headers.map (·.name) = ["X-Page", "x-rate", "Retry-After"] := ⟨_, rfl, by decide +kernel⟩
  obtain ⟨-, hpairwise, -, hsome⟩ := hanswer .none r hr
  refine ⟨r, hr, hnames, hpairwise, hsome.mpr ⟨"429", _, "x-rate", _, .head _, .head _⟩⟩

end Reply

end ApiMethods
