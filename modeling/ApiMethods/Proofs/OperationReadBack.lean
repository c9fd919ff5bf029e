/-
  ApiMethods.Proofs.OperationReadBack
  ───────────────────────────────────
  **THE PARTS OF AN OPERATION ARE KEPT, AND SO ARE PATH ITEMS.**

  Each record is kept field by field, in the order of its fields.  Some fields are written though
  they may be left out: `description` of a response, `required` of a header, `content` of a request
  body, `scopes` of a flow.  Writing an empty table needs a level that was not there when it was
  read, so these records are kept only where there is room for it (`h : 2 ≤ room`); so far from the
  root of a document they never stand.

  A path item is no record: its entries are read in the order of the text, each under its own key,
  and written one over the other.  `PathItem.entries` has the entries that stand for an item, and
  these are entries that were read.
-/
import ApiMethods.Document.Operation
import ApiMethods.Proofs.DistinctKeys
import ApiMethods.Proofs.SchemaReadBack

namespace ApiMethods.Document

open ApiMethods.Source (Reader Fields Node Place Readable Regained Fault OrRef Rebuilds)

/-! ## §1. Contents. -/

theorem Encoding.keeps (room : Nat) :
    Encoding.reader.KeepsFields room ["contentType", "style", "explode"] Encoding.toJson := by
  refine .record (by decide) fun f hf _ => ?_
  refine .step (.optional hf .text) fun contentType => ?_
  refine .step (.optional hf .text) fun style => ?_
  refine .step (.optional hf .bool) fun explode => ?_
  refine .done ?_ rfl
  simp [toJson]

theorem MediaType.keeps (room : Nat) :
    MediaType.reader.KeepsFields room ["schema", "encoding", "example"] MediaType.toJson := by
  refine .record (by decide) fun f hf _ => ?_
  refine .step (.optional hf (Schema.keeps _)) fun schema => ?_
  refine .step (.unlessEmpty hf (.table fun inner _ => (Encoding.keeps inner).toKeeps))
    fun encoding => ?_
  refine .step (.optional hf .json) fun sample => ?_
  refine .done ?_ rfl
  simp [toJson]

theorem Content.keeps (room : Nat) : Content.reader.Keeps room Content.toJson :=
  .table fun inner _ => (MediaType.keeps inner).toKeeps

theorem RequestBody.keeps {room : Nat} (h : 2 ≤ room) :
    RequestBody.reader.KeepsFields room ["description", "content", "required"]
      RequestBody.toJson := by
  refine .record (by decide) fun f hf hroom => ?_
  refine .step (.optional hf .text) fun description => ?_
  refine .step (.always hf (Content.keeps _) (.table_nil (by omega))) fun content => ?_
  refine .step (.always hf .bool (.bool false)) fun required => ?_
  refine .done ?_ rfl
  simp [toJson]

/-! ## §2. Responses. -/

theorem Header.keeps (room : Nat) :
    Header.reader.KeepsFields room ["description", "required", "schema", "type", "format"]
      Header.toJson := by
  refine .record (by decide) fun f hf _ => ?_
  refine .step (.optional hf .text) fun description => ?_
  refine .step (.always hf .bool (.bool false)) fun required => ?_
  refine .step (.optional hf (Schema.keeps _)) fun schema => ?_
  refine .step (.optional hf (TypeName.keeps _)) fun type => ?_
  refine .step (.optional hf .text) fun format => ?_
  refine .done ?_ rfl
  simp [toJson]

/-- Headers by their names. -/
theorem Header.table_keeps (room : Nat) :
    (Reader.table (Reader.orRef Header.reader)).Keeps room
      fun t => .object (Table.mapValues (OrRef.toJson Header.toJson) t) :=
  .table fun inner _ => (Header.keeps inner).orRef (by decide)

theorem Response.keeps (room : Nat) :
    Response.reader.KeepsFields room ["description", "content", "schema", "headers"]
      Response.toJson := by
  refine .record (by decide) fun f hf _ => ?_
  refine .step (.always hf .text (.text "")) fun description => ?_
  refine .step (.unlessEmpty hf (Content.keeps _)) fun content => ?_
  refine .step (.optional hf (Schema.keeps _)) fun schema => ?_
  refine .step (.unlessEmpty hf (Header.table_keeps _)) fun headers => ?_
  refine .done ?_ rfl
  simp [toJson]

theorem Responses.keeps (room : Nat) : Responses.reader.Keeps room Responses.toJson :=
  .table fun inner _ => (Response.keeps inner).orRef (by decide)

/-! ## §3. Parameters. -/

theorem Placing.text_ofText (s : String) : (Placing.ofText s).text = s := by
  unfold ofText Location.ofText?
  split <;> rename_i h <;> split at h <;> cases h <;> rfl

theorem Parameter.keeps (room : Nat) :
    Parameter.reader.KeepsFields room Parameter.fieldNames Parameter.toJson := by
  have hplacing : ∀ room, (Reader.text.map Placing.ofText).Keeps room fun l => .text l.text :=
    fun _ => Reader.Keeps.text.map fun s => congrArg Json.text (Placing.text_ofText s)
  refine .record (by decide) fun f hf _ => ?_
  refine .step (.required hf .text) fun name => ?_
  refine .step (.required hf (hplacing _)) fun location => ?_
  refine .step (.optional hf .text) fun description => ?_
  refine .step (.optional hf .bool) fun required => ?_
  refine .step (.optional hf .bool) fun deprecated => ?_
  refine .step (.optional hf (Schema.keeps _)) fun schema => ?_
  refine .step (.optional hf .text) fun style => ?_
  refine .step (.optional hf .bool) fun explode => ?_
  refine .step (.optional hf .json) fun sample => ?_
  refine .step (.optional hf (TypeName.keeps _)) fun type => ?_
  refine .step (.optional hf .text) fun format => ?_
  refine .step (.optional hf (Schema.keeps _)) fun items => ?_
  refine .step (.optional hf .text) fun collectionFormat => ?_
  refine .done ?_ rfl
  simp [toJson, fieldNames]

/-- Parameters, or references to them. -/
theorem Parameter.orRef_keeps (room : Nat) :
    (Reader.orRef Parameter.reader).Keeps room (OrRef.toJson Parameter.toJson) :=
  (Parameter.keeps room).orRef (by decide)

theorem parameters_keeps (room : Nat) : parametersReader.Keeps room parametersJson :=
  .list fun inner _ => Parameter.orRef_keeps inner

/-! ## §4. Security. -/

theorem SchemeType.text_ofText (s : String) : (SchemeType.ofText s).text = s := by
  unfold ofText
  split <;> rfl

theorem KeyLocation.ofText?_text (l : KeyLocation) : ofText? l.text = some l := by
  cases l <;> rfl

theorem scopes_keeps (room : Nat) : (Reader.table Reader.text).Keeps room scopesJson :=
  .table fun _ _ => .text

theorem Flow.keeps {room : Nat} (h : 2 ≤ room) :
    Flow.reader.KeepsFields room ["authorizationUrl", "tokenUrl", "refreshUrl", "scopes"]
      Flow.toJson := by
  refine .record (by decide) fun f hf hroom => ?_
  refine .step (.optional hf .text) fun authorizationUrl => ?_
  refine .step (.optional hf .text) fun tokenUrl => ?_
  refine .step (.optional hf .text) fun refreshUrl => ?_
  refine .step (.always hf (scopes_keeps _) (.table_nil (by omega))) fun scopes => ?_
  refine .done ?_ rfl
  simp [toJson]

theorem Flows.keeps {room : Nat} (h : 3 ≤ room) :
    Flows.reader.KeepsFields room ["implicit", "password", "clientCredentials", "authorizationCode"]
      Flows.toJson := by
  refine .record (by decide) fun f hf hroom => ?_
  have hflow : Flow.reader.Keeps f.place.room Flow.toJson := (Flow.keeps (by omega)).toKeeps
  refine .step (.optional hf hflow) fun implicitFlow => ?_
  refine .step (.optional hf hflow) fun password => ?_
  refine .step (.optional hf hflow) fun clientCredentials => ?_
  refine .step (.optional hf hflow) fun authorizationCode => ?_
  refine .done ?_ rfl
  simp [toJson]

theorem SecurityScheme.keeps {room : Nat} (h : 4 ≤ room) :
    SecurityScheme.reader.KeepsFields room SecurityScheme.fieldNames SecurityScheme.toJson := by
  have htype : ∀ room, (Reader.text.map SchemeType.ofText).Keeps room fun t => .text t.text :=
    fun _ => Reader.Keeps.text.map fun s => congrArg Json.text (SchemeType.text_ofText s)
  refine .record (by decide) fun f hf hroom => ?_
  refine .step (.required hf (htype _)) fun type => ?_
  refine .step (.optional hf .text) fun description => ?_
  refine .step (.optional hf .text) fun name => ?_
  refine .step (.optional hf (.choice KeyLocation.ofText?_text)) fun location => ?_
  refine .step (.optional hf .text) fun scheme => ?_
  refine .step (.optional hf .text) fun bearerFormat => ?_
  refine .step (.optional hf (Flows.keeps (by omega)).toKeeps) fun flows => ?_
  refine .step (.optional hf .text) fun openIdConnectUrl => ?_
  refine .step (.optional hf .text) fun flow => ?_
  refine .step (.optional hf .text) fun authorizationUrl => ?_
  refine .step (.optional hf .text) fun tokenUrl => ?_
  refine .step (.unlessEmpty hf (scopes_keeps _)) fun scopes => ?_
  refine .done ?_ rfl
  simp [toJson, fieldNames]

theorem Requirements.keeps (room : Nat) : Requirements.reader.Keeps room Requirements.toJson :=
  .list fun _ _ => .table fun _ _ => .texts

/-! ## §5. Operations. -/

theorem Operation.keeps {room : Nat} (h : 3 ≤ room) :
    Operation.reader.KeepsFields room Operation.fieldNames Operation.toJson := by
  refine .record (by decide) fun f hf hroom => ?_
  have hbody : (Reader.orRef RequestBody.reader).Keeps f.place.room
      (OrRef.toJson RequestBody.toJson) := (RequestBody.keeps (by omega)).orRef (by decide)
  refine .step (.optional hf .text) fun operationId => ?_
  refine .step (.optional hf .text) fun summary => ?_
  refine .step (.optional hf .text) fun description => ?_
  refine .step (.unlessEmpty hf .texts) fun tags => ?_
  refine .step (.unlessEmpty hf (parameters_keeps _)) fun parameters => ?_
  refine .step (.optional hf hbody) fun requestBody => ?_
  refine .step (.unlessEmpty hf (Responses.keeps _)) fun responses => ?_
  refine .step (.optional hf .bool) fun deprecated => ?_
  refine .step (.optional hf (Requirements.keeps _)) fun security => ?_
  refine .step (.unlessEmpty hf .texts) fun consumes => ?_
  refine .done ?_ rfl
  simp [toJson, fieldNames]

/-! ## §6. Path items. -/

namespace PathItem

/-- The key of an entry. -/
def Entry.key : Entry → String
  | .summary _ => "summary"
  | .description _ => "description"
  | .parameters _ => "parameters"
  | .operation verb _ => verb.key
  | .unknown => ""

/-- The JSON value of an entry. -/
def Entry.toJson : Entry → Json
  | .summary s => Json.orNull .text s
  | .description s => Json.orNull .text s
  | .parameters ps => parametersJson ps
  | .operation _ o => o.toJson
  | .unknown => .null

/-- The entries that stand for a path item. -/
def entries (item : PathItem) : List Entry :=
  (item.summary.map fun s => Entry.summary (some s)).toList ++
  (item.description.map fun s => Entry.description (some s)).toList ++
  (match item.parameters with
    | [] => []
    | ps => [.parameters ps]) ++
  item.operations.map fun e => .operation e.1 e.2

theorem toJson_eq (item : PathItem) :
    item.toJson = .object (item.entries.map fun e => (e.key, e.toJson)) := by
  obtain ⟨summary, description, parameters, operations⟩ := item
  have hoperations : operations.map (fun e => (e.1.key, e.2.toJson))
      = (operations.map fun e => Entry.operation e.1 e.2).map fun e => (e.key, e.toJson) := by
    rw [List.map_map]
    rfl
  unfold toJson entries
  dsimp only
  rw [List.map_append, ← hoperations]
  cases summary <;> cases description <;> cases parameters <;> rfl

/-! ### The entries of an item make it again. -/

theorem foldl_add_operations (t : Table Verb Operation) (item : PathItem) :
    (t.map fun e => Entry.operation e.1 e.2).foldl add item
      = { item with operations := t.foldl (fun t e => Table.insert t e.1 e.2) item.operations } := by
  induction t generalizing item with
  | nil => rfl
  | cons e rest ih =>
    rw [List.map_cons, List.foldl_cons, ih]
    rfl

theorem ofEntries_entries {item : PathItem} (h : item.operations.Distinct) :
    ofEntries item.entries = item := by
  obtain ⟨summary, description, parameters, operations⟩ := item
  have hoperations : operations.foldl (fun t e => Table.insert t e.1 e.2) [] = operations :=
    h.ofEntries_eq
  unfold ofEntries entries
  rw [List.foldl_append, foldl_add_operations]
  cases summary <;> cases description <;> cases parameters <;>
    exact congrArg (PathItem.mk _ _ _) hoperations

/-! ### The entries of an item that was read are entries that were read. -/

theorem mem_entries {item : PathItem} {e : Entry} :
    e ∈ item.entries ↔
      (∃ s, item.summary = some s ∧ e = .summary (some s)) ∨
      (∃ s, item.description = some s ∧ e = .description (some s)) ∨
      (item.parameters ≠ [] ∧ e = .parameters item.parameters) ∨
      ∃ o ∈ item.operations, e = .operation o.1 o.2 := by
  obtain ⟨summary, description, parameters, operations⟩ := item
  unfold entries
  cases summary <;> cases description <;> cases parameters <;> simp [eq_comm]

theorem mem_entries_add {item : PathItem} {entry e : Entry} (h : e ∈ (item.add entry).entries) :
    e ∈ item.entries ∨ e = entry := by
  rw [mem_entries] at h
  rw [mem_entries]
  cases entry with
  | unknown => exact .inl h
  | operation verb o =>
    rcases h with h | h | h | ⟨o', ho', rfl⟩
    · exact .inl (.inl h)
    · exact .inl (.inr (.inl h))
    · exact .inl (.inr (.inr (.inl h)))
    · rcases Table.mem_insert ho' with rfl | ho'
      · exact .inr rfl
      · exact .inl (.inr (.inr (.inr ⟨o', ho', rfl⟩)))
  -- a field that is written over has the entry that was written, or none
  | summary s => grind [add]
  | description s => grind [add]
  | parameters ps => grind [add]

theorem mem_of_mem_entries {es : List Entry} {e : Entry} (h : e ∈ (ofEntries es).entries) :
    e ∈ es := by
  suffices hfold : ∀ item : PathItem, e ∈ (es.foldl add item).entries → e ∈ item.entries ∨ e ∈ es
    from (hfold {} h).resolve_left List.not_mem_nil
  clear h
  induction es with
  | nil => exact fun item h => .inl h
  | cons first rest ih =>
    intro item h
    rcases ih _ h with h | h
    · rcases mem_entries_add h with h | rfl
      · exact .inl h
      · exact .inr List.mem_cons_self
    · exact .inr (List.mem_cons_of_mem _ h)

/-! ### An entry is read again under its own key. -/

theorem entryReader_summary : entryReader "summary" = (Reader.option Reader.text).map .summary :=
  if_pos rfl

theorem entryReader_description :
    entryReader "description" = (Reader.option Reader.text).map .description := by
  unfold entryReader
  rw [if_neg (by decide), if_pos rfl]

theorem entryReader_parameters :
    entryReader "parameters" = parametersReader.map .parameters := by
  unfold entryReader
  rw [if_neg (by decide), if_neg (by decide), if_pos rfl]

theorem entryReader_operation (verb : Verb) :
    entryReader verb.key = Operation.reader.map (.operation verb) := by
  have hsummary : verb.key ≠ "summary" := by cases verb <;> decide
  have hdescription : verb.key ≠ "description" := by cases verb <;> decide
  have hparameters : verb.key ≠ "parameters" := by cases verb <;> decide
  unfold entryReader
  rw [if_neg hsummary, if_neg hdescription, if_neg hparameters, Verb.ofKey?_key]

/-- A text or nothing is regained. -/
theorem regained_text {room : Nat} {make : Option String → Entry}
    (hmake : ∀ s, (make s).toJson = Json.orNull .text s) (s : Option String) :
    Regained ((Reader.option Reader.text).map make) Entry.toJson room (make s) := by
  constructor
  · rw [hmake]
    cases s <;> exact .scalar trivial
  · intro p _
    rw [hmake]
    cases s <;> rfl

/-- **AN ENTRY THAT WAS READ IS REGAINED**, whatever its key. -/
theorem Entry.regained {room : Nat} (hroom : 3 ≤ room) {key : String} {p : Place} {n : Node}
    {e : Entry} (hp : p.room = room) (hn : Readable p n) (h : entryReader key p n = .ok e) :
    Regained (entryReader e.key) Entry.toJson room e := by
  unfold entryReader at h
  split at h
  · obtain ⟨s, -, rfl⟩ := map_eq_ok h
    rw [Entry.key, entryReader_summary]
    exact regained_text (fun _ => rfl) s
  split at h
  · obtain ⟨s, -, rfl⟩ := map_eq_ok h
    rw [Entry.key, entryReader_description]
    exact regained_text (fun _ => rfl) s
  split at h
  · obtain ⟨ps, hps, rfl⟩ := map_eq_ok h
    rw [Entry.key, entryReader_parameters]
    exact ((parameters_keeps room).regained hp hn hps).map rfl
  cases hverb : Verb.ofKey? key with
  | some verb =>
    rw [hverb] at h
    obtain ⟨o, ho, rfl⟩ := map_eq_ok h
    rw [Entry.key, entryReader_operation]
    exact ((Operation.keeps hroom).regained hp hn ho).map rfl
  | none =>
    -- a key without a meaning says nothing, and neither does what is written for it
    rw [hverb] at h
    cases h
    exact ⟨.scalar trivial, fun p _ => rfl⟩

/-- A path item is regained, one level further out, when its entries are and its verbs are
    distinct. -/
theorem regained_of_entries {room : Nat} {item : PathItem} (hdistinct : item.operations.Distinct)
    (h : ∀ e ∈ item.entries, Regained (entryReader e.key) Entry.toJson room e) :
    Regained reader toJson (room + 1) item := by
  constructor
  · rw [toJson_eq]
    refine Node.fits_object fun e he => ?_
    obtain ⟨e', he', rfl⟩ := List.mem_map.mp he
    exact (h e' he').fits
  · intro p hp
    rw [toJson_eq] at hp ⊢
    obtain ⟨inner, hinner, hentries⟩ := hp.of_node_object
    have hback : entriesReader p
        (Json.object (item.entries.map fun e => (e.key, e.toJson))).node = .ok item.entries := by
      rw [Json.node_object]
      show (p.inside >>= fun p => _) = _
      rw [Place.inside_of_room hinner]
      show ((item.entries.map fun e => (e.key, e.toJson)).map Json.entryNode).mapM _ = _
      rw [List.mapM_map, List.mapM_map]
      refine (mapM_eq_ok (g := id) fun e he => ?_).trans (by rw [List.map_id])
      exact (h e he).back { p with room := inner } (hentries _ (List.mem_map_of_mem he))
    show (entriesReader p _).map ofEntries = _
    rw [hback]
    exact congrArg Except.ok (ofEntries_entries hdistinct)

/-- Every entry that is read of a path item is regained one level further in. -/
theorem regained_of_entriesReader {room : Nat} (hroom : 3 ≤ room) {p : Place} {n : Node}
    {es : List Entry} (hp : p.room = room + 1) (hn : Readable p n)
    (h : entriesReader p n = .ok es) :
    ∀ e ∈ es, Regained (entryReader e.key) Entry.toJson room e := by
  unfold entriesReader at h
  obtain ⟨n', hfollow, h⟩ := bind_eq_ok h
  cases hn.plain.eq_of_follow hfollow
  split at h
  · obtain ⟨p', hinside, h⟩ := bind_eq_ok h
    have hinner : p'.room = room := Nat.succ.inj ((Place.inside_eq_ok hinside).1.symm.trans hp)
    intro e he
    obtain ⟨entry, hentry, hread⟩ := exists_of_mem_mapM h he
    obtain ⟨key, -, hread⟩ := bind_eq_ok hread
    exact Entry.regained hroom hinner (hn.entry hinside entry hentry).2 hread
  · rw [hn.plain.isBlank_eq] at h
    cases h
  · cases h

/-- **PATH ITEMS ARE KEPT.** -/
theorem keeps {room : Nat} (h : 4 ≤ room) : reader.Keeps room toJson where
  regained {p n item} hp hn hitem := by
    have hdistinct : item.operations.Distinct := yields_distinct p n item hitem
    obtain ⟨es, hes, rfl⟩ := map_eq_ok hitem
    obtain ⟨inner, rfl⟩ : ∃ inner, room = inner + 1 := ⟨room - 1, by omega⟩
    have hread := regained_of_entriesReader (by omega) hp hn hes
    exact regained_of_entries hdistinct fun e he => hread e (mem_of_mem_entries he)
  null {p n item} _ _ _ hnull := by
    rw [toJson_eq] at hnull
    cases hnull

end PathItem

end ApiMethods.Document
