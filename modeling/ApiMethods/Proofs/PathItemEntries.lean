/-
  ApiMethods.Proofs.PathItemEntries
  ─────────────────────────────────
  **A PATH ITEM HAS THE LAST VALUE UNDER EACH KEY, AND ITS VERBS IN THEIR FIRST ORDER.**

  A path item is read entry by entry.  A key is one of three kinds of fields, or a verb, or it has no
  meaning:

      summary, description    a text or nothing
      parameters              a list of parameters
      get, post, ...          an operation
      any other key           not looked at

  STEP: the value of an entry is read, even when a later entry will be written over it; when its shape
  is wrong, there is no path item.  Otherwise it takes the place of what stood under its key.  RUN:
  each field has the last value under its key, and the verbs keep the order in which they occur first
  (`Reads`).  Entries without a meaning may come and go.
-/
import ApiMethods.Proofs.MergedParameters
import ApiMethods.Proofs.OperationReadBack

namespace ApiMethods

open ApiMethods.Source (Reader Fault Node Place)

/-- The place from which one more level is entered to come here. -/
def Source.Place.around (p : Place) : Place := { p with room := p.room + 1 }

theorem Source.Place.inside_around (p : Place) : p.around.inside = .ok p :=
  Place.inside_of_room rfl

namespace Document.PathItem

/-! ## §1. Entries. -/

/-- A map of entries whose keys are texts, as every object of a JSON text is one. -/
def nodeOf (entries : List (String × Node)) : Node :=
  .map false (entries.map fun e => (Node.text e.1, e.2))

/-- The keys that have a meaning. -/
def knownKeys : List String := ["summary", "description", "parameters"] ++ Verb.all.map Verb.key

/-- The kind of a key. -/
inductive KeyKind : String → Prop
  | summary : KeyKind "summary"
  | description : KeyKind "description"
  | parameters : KeyKind "parameters"
  | operation (verb : Verb) : KeyKind verb.key
  | unknown {key : String} : key ∉ knownKeys → KeyKind key

theorem keyKind (key : String) : KeyKind key := by
  by_cases hknown : key ∈ knownKeys
  · rcases List.mem_append.mp hknown with hfield | hverb
    · simp only [List.mem_cons, List.not_mem_nil, or_false] at hfield
      rcases hfield with rfl | rfl | rfl
      · exact .summary
      · exact .description
      · exact .parameters
    · obtain ⟨verb, -, rfl⟩ := List.mem_map.mp hverb
      exact .operation verb
  · exact .unknown hknown

theorem mem_knownKeys (verb : Verb) : verb.key ∈ knownKeys :=
  List.mem_append_right _ (List.mem_map_of_mem (Verb.mem_all verb))

theorem ofKey?_of_unknown {key : String} (h : key ∉ knownKeys) : Verb.ofKey? key = none := by
  cases hverb : Verb.ofKey? key with
  | none => rfl
  | some verb =>
    rw [← Verb.key_of_ofKey? hverb] at h
    exact absurd (mem_knownKeys verb) h

theorem entryReader_unknown {key : String} (h : key ∉ knownKeys) :
    entryReader key = fun _ _ => .ok .unknown := by
  have hne : ∀ known ∈ knownKeys, key ≠ known := fun known hknown heq => h (heq ▸ hknown)
  unfold entryReader
  rw [if_neg (hne _ (by decide)), if_neg (hne _ (by decide)), if_neg (hne _ (by decide)),
    ofKey?_of_unknown h]

/-- The value of an entry does not have the shape that its key asks for. -/
inductive Misshapen (p : Place) : String × Node → Prop
  | summary {v : Node} {fault : Fault} : Reader.option Reader.text p v = .error fault →
      Misshapen p ("summary", v)
  | description {v : Node} {fault : Fault} : Reader.option Reader.text p v = .error fault →
      Misshapen p ("description", v)
  | parameters {v : Node} {fault : Fault} : parametersReader p v = .error fault →
      Misshapen p ("parameters", v)
  | operation (verb : Verb) {v : Node} {fault : Fault} : Operation.reader p v = .error fault →
      Misshapen p (verb.key, v)

theorem map_eq_error {ε α β : Type} {w : Except ε α} {f : α → β} {e : ε} :
    w.map f = .error e ↔ w = .error e := by
  rw [← fault?_eq_some, fault?_map, fault?_eq_some]

/-- An entry cannot be read when its value is misshapen. -/
theorem misshapen_iff (p : Place) (e : String × Node) :
    Misshapen p e ↔ ∃ fault, entryReader e.1 p e.2 = .error fault := by
  obtain ⟨key, v⟩ := e
  constructor
  · intro h
    cases h with
    | @summary _ fault h =>
      rw [entryReader_summary]
      exact ⟨fault, map_eq_error.mpr h⟩
    | @description _ fault h =>
      rw [entryReader_description]
      exact ⟨fault, map_eq_error.mpr h⟩
    | @parameters _ fault h =>
      rw [entryReader_parameters]
      exact ⟨fault, map_eq_error.mpr h⟩
    | @operation verb _ fault h =>
      rw [entryReader_operation]
      exact ⟨fault, map_eq_error.mpr h⟩
  · intro ⟨fault, h⟩
    cases keyKind key with
    | summary =>
      rw [entryReader_summary] at h
      exact .summary (map_eq_error.mp h)
    | description =>
      rw [entryReader_description] at h
      exact .description (map_eq_error.mp h)
    | parameters =>
      rw [entryReader_parameters] at h
      exact .parameters (map_eq_error.mp h)
    | operation verb =>
      rw [entryReader_operation] at h
      exact .operation verb (map_eq_error.mp h)
    | unknown hunknown =>
      rw [entryReader_unknown hunknown] at h
      cases h

/-! ## §2. Reading entry by entry. -/

/-- Read an entry and write it over what earlier entries said. -/
def readEntry (p : Place) (item : PathItem) (e : String × Node) : Except Fault PathItem :=
  (entryReader e.1 p e.2).map item.add

/-- Reading all entries and then writing them is reading and writing one after the other. -/
theorem map_foldl_add_mapM (p : Place) (entries : List (String × Node)) (item : PathItem) :
    (entries.mapM fun e => entryReader e.1 p e.2).map (List.foldl add item)
      = entries.foldlM (readEntry p) item := by
  induction entries generalizing item with
  | nil => rfl
  | cons e rest ih =>
    rw [List.mapM_cons, List.foldlM_cons, readEntry]
    cases entryReader e.1 p e.2 with
    | error fault => rfl
    | ok entry =>
      show _ = rest.foldlM (readEntry p) (item.add entry)
      rw [← ih (item.add entry)]
      cases rest.mapM fun e => entryReader e.1 p e.2 <;> rfl

/-- **A PATH ITEM IS READ ENTRY BY ENTRY.** -/
theorem reader_nodeOf (p : Place) (entries : List (String × Node)) :
    reader p.around (nodeOf entries) = entries.foldlM (readEntry p) {} := by
  rw [← map_foldl_add_mapM]
  show (entriesReader p.around (nodeOf entries)).map ofEntries = _
  have hentries : entriesReader p.around (nodeOf entries)
      = entries.mapM fun e => entryReader e.1 p e.2 := by
    show (p.around.inside >>= fun p => _) = _
    rw [Place.inside_around]
    show (entries.map fun e => (Node.text e.1, e.2)).mapM _ = _
    rw [List.mapM_map]
    rfl
  rw [hentries]
  rfl

/-- **Run**: the entries cannot be read when the value of one of them is misshapen, be it written
    over later or not. -/
theorem exists_fault_foldlM_iff (p : Place) (entries : List (String × Node)) (item : PathItem) :
    (∃ fault, entries.foldlM (readEntry p) item = .error fault) ↔ ∃ e ∈ entries, Misshapen p e := by
  induction entries generalizing item with
  | nil =>
    constructor
    · intro ⟨fault, h⟩
      cases h
    · intro ⟨e, he, _⟩
      cases he
  | cons e rest ih =>
    rw [List.foldlM_cons, List.exists_mem_cons_iff, misshapen_iff, readEntry]
    cases entryReader e.1 p e.2 with
    | error fault => exact iff_of_true ⟨fault, rfl⟩ (.inl ⟨fault, rfl⟩)
    | ok entry =>
      have hhere : ¬ ∃ fault, (Except.ok entry : Except Fault Entry) = .error fault := by
        intro ⟨fault, h⟩
        cases h
      rw [or_iff_right hhere]
      exact ih (item.add entry)

/-- An entry without a meaning changes nothing. -/
theorem readEntry_unknown {p : Place} {e : String × Node} (h : e.1 ∉ knownKeys) (item : PathItem) :
    readEntry p item e = .ok item := by
  unfold readEntry
  rw [entryReader_unknown h]
  rfl

/-- **ENTRIES WITHOUT A MEANING MAY COME AND GO.** -/
theorem foldlM_filter_known (p : Place) (entries : List (String × Node)) (item : PathItem) :
    (entries.filter (·.1 ∈ knownKeys)).foldlM (readEntry p) item
      = entries.foldlM (readEntry p) item := by
  induction entries generalizing item with
  | nil => rfl
  | cons e rest ih =>
    by_cases hknown : e.1 ∈ knownKeys
    · rw [List.filter_cons_of_pos (by simpa using hknown), List.foldlM_cons, List.foldlM_cons]
      exact bind_congr_ok fun item' _ => ih item'
    · rw [List.filter_cons_of_neg (by simpa using hknown), List.foldlM_cons,
        readEntry_unknown hknown]
      exact ih item

/-! ## §3. The last value under each key. -/

/-- The last value under a key. -/
def last? (entries : List (String × Node)) (key : String) : Option Node :=
  ((entries.filter (·.1 = key)).getLast?).map (·.2)

theorem last?_append_singleton (entries : List (String × Node)) (e : String × Node) (key : String) :
    last? (entries ++ [e]) key = if e.1 = key then some e.2 else last? entries key := by
  unfold last?
  rw [List.filter_append]
  by_cases h : e.1 = key
  · simp [h]
  · simp [h]

section LastRead

variable {α : Type} {r : Reader α} {default a : α} {p : Place} {entries : List (String × Node)}
  {key : String}

/-- What is read off the last value under a key, or the default when there is none. -/
def LastRead (r : Reader α) (default : α) (p : Place) (entries : List (String × Node))
    (key : String) (a : α) : Prop :=
  match last? entries key with
  | some v => r p v = .ok a
  | none => a = default

theorem lastRead_nil : LastRead r default p [] key default := rfl

/-- The value of one more entry under the key is the last one. -/
theorem LastRead.here {v : Node} (h : r p v = .ok a) :
    LastRead r default p (entries ++ [(key, v)]) key a := by
  unfold LastRead
  rw [last?_append_singleton, if_pos rfl]
  exact h

/-- One more entry under another key changes nothing. -/
theorem LastRead.elsewhere (h : LastRead r default p entries key a) {key' : String}
    (hne : key' ≠ key) (v : Node) : LastRead r default p (entries ++ [(key', v)]) key a := by
  unfold LastRead
  rw [last?_append_singleton, if_neg hne]
  exact h

end LastRead

/-- What is read off some entries: each field has its last value, or what stands for none; the verbs
    are those that occur, in the order in which they occur first, and each has its last operation. -/
structure Reads (p : Place) (entries : List (String × Node)) (item : PathItem) : Prop where
  summary : LastRead (Reader.option Reader.text) none p entries "summary" item.summary
  description : LastRead (Reader.option Reader.text) none p entries "description" item.description
  parameters : LastRead parametersReader [] p entries "parameters" item.parameters
  verbs : item.operations.keys = (entries.filterMap fun e => Verb.ofKey? e.1).eraseDups
  operation : ∀ verb : Verb,
    LastRead (Operation.reader.map some) none p entries verb.key (item.operations.get? verb)

theorem reads_nil (p : Place) : Reads p [] {} :=
  ⟨lastRead_nil, lastRead_nil, lastRead_nil, rfl, fun _ => lastRead_nil⟩

theorem field_ne_key (verb : Verb) :
    verb.key ≠ "summary" ∧ verb.key ≠ "description" ∧ verb.key ≠ "parameters" := by
  cases verb <;> decide

/-- The verbs that occur in one entry more. -/
theorem filterMap_ofKey?_append (entries : List (String × Node)) (key : String) (v : Node) :
    (entries ++ [(key, v)]).filterMap (fun e => Verb.ofKey? e.1)
      = (entries.filterMap fun e => Verb.ofKey? e.1) ++ (Verb.ofKey? key).toList := by
  rw [List.filterMap_append]
  cases hverb : Verb.ofKey? key <;> simp [hverb]

/-- An entry that is no operation leaves the operations as they are. -/
theorem Reads.operations_elsewhere {p : Place} {entries : List (String × Node)} {item : PathItem}
    (h : Reads p entries item) {key : String} (hkey : Verb.ofKey? key = none) (v : Node) :
    item.operations.keys
        = ((entries ++ [(key, v)]).filterMap fun e => Verb.ofKey? e.1).eraseDups ∧
      ∀ verb : Verb, LastRead (Operation.reader.map some) none p (entries ++ [(key, v)]) verb.key
        (item.operations.get? verb) := by
  constructor
  · rw [filterMap_ofKey?_append, hkey, Option.toList_none, List.append_nil]
    exact h.verbs
  · intro verb
    refine (h.operation verb).elsewhere ?_ v
    intro heq
    rw [heq, Verb.ofKey?_key] at hkey
    cases hkey

/-- **Step**: one more entry is written over what was read. -/
theorem Reads.add {p : Place} {entries : List (String × Node)} {item : PathItem}
    (h : Reads p entries item) {key : String} {v : Node} {entry : Entry}
    (hentry : entryReader key p v = .ok entry) :
    Reads p (entries ++ [(key, v)]) (item.add entry) := by
  cases keyKind key with
  | summary =>
    rw [entryReader_summary] at hentry
    obtain ⟨s, hs, rfl⟩ := map_eq_ok hentry
    obtain ⟨hverbs, hoperation⟩ := h.operations_elsewhere (by decide : Verb.ofKey? "summary" = none) v
    exact ⟨.here hs, h.description.elsewhere (by decide) v, h.parameters.elsewhere (by decide) v,
      hverbs, hoperation⟩
  | description =>
    rw [entryReader_description] at hentry
    obtain ⟨s, hs, rfl⟩ := map_eq_ok hentry
    obtain ⟨hverbs, hoperation⟩ :=
      h.operations_elsewhere (by decide : Verb.ofKey? "description" = none) v
    exact ⟨h.summary.elsewhere (by decide) v, .here hs, h.parameters.elsewhere (by decide) v,
      hverbs, hoperation⟩
  | parameters =>
    rw [entryReader_parameters] at hentry
    obtain ⟨ps, hps, rfl⟩ := map_eq_ok hentry
    obtain ⟨hverbs, hoperation⟩ :=
      h.operations_elsewhere (by decide : Verb.ofKey? "parameters" = none) v
    exact ⟨h.summary.elsewhere (by decide) v, h.description.elsewhere (by decide) v, .here hps,
      hverbs, hoperation⟩
  | operation verb =>
    rw [entryReader_operation] at hentry
    obtain ⟨o, ho, rfl⟩ := map_eq_ok hentry
    obtain ⟨hsummary, hdescription, hparameters⟩ := field_ne_key verb
    refine ⟨h.summary.elsewhere hsummary v, h.description.elsewhere hdescription v,
      h.parameters.elsewhere hparameters v, ?_, fun verb' => ?_⟩
    · -- a verb that is there keeps its place, another one is put behind the rest
      show (item.operations.insert verb o).keys = _
      rw [Table.keys_insert, h.verbs, filterMap_ofKey?_append, Verb.ofKey?_key, Option.toList_some,
        eraseDups_append_singleton]
      simp only [List.mem_eraseDups]
    · show LastRead _ _ _ _ _ ((item.operations.insert verb o).get? verb')
      rw [Table.get?_insert]
      by_cases hverb : verb = verb'
      · subst hverb
        rw [if_pos rfl]
        apply LastRead.here
        unfold Reader.map
        rw [ho]
        rfl
      · rw [if_neg hverb]
        exact (h.operation verb').elsewhere (fun heq => hverb (Verb.key_injective heq)) v
  | unknown hunknown =>
    rw [entryReader_unknown hunknown] at hentry
    cases hentry
    have hne : ∀ known ∈ knownKeys, key ≠ known := fun known hknown heq => hunknown (heq ▸ hknown)
    obtain ⟨hverbs, hoperation⟩ := h.operations_elsewhere (ofKey?_of_unknown hunknown) v
    exact ⟨h.summary.elsewhere (hne _ (by decide)) v, h.description.elsewhere (hne _ (by decide)) v,
      h.parameters.elsewhere (hne _ (by decide)) v, hverbs, hoperation⟩

/-- **Run**: entries that can be read are read with the last value under each key. -/
theorem reads_of_foldlM {p : Place} {entries : List (String × Node)} {item : PathItem}
    (h : entries.foldlM (readEntry p) {} = .ok item) : Reads p entries item := by
  induction entries using List.reverseRecOn generalizing item with
  | nil =>
    cases h
    exact reads_nil p
  | append_singleton entries e ih =>
    rw [List.foldlM_append] at h
    obtain ⟨item', hentries, h⟩ := bind_eq_ok h
    rw [List.foldlM_cons] at h
    obtain ⟨item'', hlast, h⟩ := bind_eq_ok h
    cases h
    obtain ⟨entry, hentry, rfl⟩ := map_eq_ok hlast
    exact (ih hentries).add hentry

/-- **THE LAST VALUE UNDER EACH KEY COUNTS, AND EACH VALUE HAS TO HAVE ITS SHAPE.**  There is no path
item exactly when the value of some entry is misshapen, even if it is written over.  Otherwise there
is one, and it has the last value under each key and its verbs in their first order.  Which entries
without a meaning there are, and where, makes no difference. -/
theorem reader_keeps_last (p : Place) (entries : List (String × Node)) :
    ((∃ fault, reader p.around (nodeOf entries) = .error fault) ↔ ∃ e ∈ entries, Misshapen p e) ∧
    ((∀ e ∈ entries, ¬ Misshapen p e) →
      ∃ item, reader p.around (nodeOf entries) = .ok item ∧ Reads p entries item) ∧
    ∀ entries' : List (String × Node),
      entries'.filter (·.1 ∈ knownKeys) = entries.filter (·.1 ∈ knownKeys) →
        reader p.around (nodeOf entries') = reader p.around (nodeOf entries) := by
  rw [reader_nodeOf]
  have hfault := exists_fault_foldlM_iff p entries {}
  refine ⟨hfault, fun hshapes => ?_, fun entries' hsame => ?_⟩
  · cases hread : entries.foldlM (readEntry p) {} with
    | error fault =>
      obtain ⟨e, he, hmisshapen⟩ := hfault.mp ⟨fault, hread⟩
      exact absurd hmisshapen (hshapes e he)
    | ok item => exact ⟨item, rfl, reads_of_foldlM hread⟩
  · rw [reader_nodeOf, ← foldlM_filter_known p entries', hsame, foldlM_filter_known]

/-- An operation with an id. -/
def operationNode (id : String) : Node := .map false [(.text "operationId", .text id)]

/-- Kiosks are listed, then opened, then listed in another way; their summary is taken back, and the
    servers have no meaning here. -/
def kioskEntries : List (String × Node) :=
  [("get", operationNode "listKiosks"), ("summary", .text "Kiosks"), ("servers", .list false []),
    ("post", operationNode "openKiosk"), ("get", operationNode "findKiosks"),
    ("summary", .typed .null)]

/-- A place in a JSON document. -/
def kioskPlace : Place := ⟨.json, 125, false⟩

/-- The later listing counts, at the place of the first; the servers make no difference; and a first
    listing of the wrong shape is not made good by the later ones. -/
theorem reader_keeps_last_kioskEntries :
    (∀ e ∈ kioskEntries, ¬ Misshapen kioskPlace e) ∧
    (∃ item, reader kioskPlace.around (nodeOf kioskEntries) = .ok item ∧
      Reads kioskPlace kioskEntries item ∧ item.operations.keys = [.get, .post] ∧
      (item.operations.get? .get).bind (·.operationId) = some "findKiosks" ∧
      item.summary = none) ∧
    reader kioskPlace.around (nodeOf (kioskEntries.eraseIdx 2))
      = reader kioskPlace.around (nodeOf kioskEntries) ∧
    ∃ fault, reader kioskPlace.around (nodeOf (("get", .typed .null) :: kioskEntries))
      = .error fault := by
  obtain ⟨hfault, hread, hunknown⟩ := reader_keeps_last kioskPlace kioskEntries
  have hshapes : ∀ e ∈ kioskEntries, ¬ Misshapen kioskPlace e := by
    intro e he hmisshapen
    obtain ⟨fault, hfault⟩ := hfault.mpr ⟨e, he, hmisshapen⟩
    cases hfault
  obtain ⟨item, hitem, hreads⟩ := hread hshapes
  refine ⟨hshapes, ⟨item, hitem, hreads, ?_, ?_, ?_⟩, hunknown _ rfl, ?_⟩
  · exact hreads.verbs.trans (by decide)
  · cases hitem
    rfl
  · cases hitem
    rfl
  · have hmisshapen : Misshapen kioskPlace ("get", .typed .null) := .operation .get rfl
    exact (reader_keeps_last kioskPlace _).1.mpr ⟨_, List.mem_cons_self, hmisshapen⟩

end Document.PathItem

end ApiMethods
