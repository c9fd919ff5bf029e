/-
  ApiMethods.Proofs.SchemaReadBack
  ────────────────────────────────
  **SCHEMAS ARE KEPT.**

  A schema is read by structural recursion on how often it may nest, and the number it starts with
  is the room of the place.  Every part of a body is read where there is less room, so a greater
  number would make no difference (`readerWithin_eq`), and the reader satisfies the equation that a
  plain recursion would have:

      reader  =  a reference or else  (a body whose parts are read by reader)

  With it schemas are kept by induction on the room (`Schema.keeps`).  The two fields that may have
  either of two shapes, `type` and `additionalProperties`, try the one and then the other; neither
  writes what the other could read.
-/
import ApiMethods.Document.Schema
import ApiMethods.Proofs.RecordReadBack

namespace ApiMethods

open ApiMethods.Source (Reader Fields Node Place Readable Regained Fault OrRef)

/-! ## §1. Readers that agree. -/

namespace Source

theorem settled_room {p p' : Place} {n n' : Node} (h : settled p n = .ok (p', n')) :
    p'.room = p.room := by
  unfold settled at h
  split at h
  · cases h
    rfl
  · obtain ⟨found, -, h⟩ := bind_eq_ok h
    obtain ⟨n'', -, h⟩ := bind_eq_ok h
    cases h
    rfl

/-- The readers do the same wherever there is less room. -/
def Reader.Agree {α : Type} (room : Nat) (r r' : Reader α) : Prop :=
  ∀ p n, p.room < room → r p n = r' p n

namespace Reader.Agree

variable {α β : Type} {room : Nat} {r r' : Reader α} (h : Reader.Agree room r r')
include h

theorem inside {p p' : Place} (hp : p.room ≤ room) (hinside : p.inside = .ok p') : r p' = r' p' := by
  funext n
  refine h p' n ?_
  have hroom := (Place.inside_eq_ok hinside).1
  omega

theorem map (f : α → β) : Reader.Agree room (r.map f) (r'.map f) := by
  intro p n hp
  show (r p n).map f = (r' p n).map f
  rw [h p n hp]

theorem option : Reader.Agree room (Reader.option r) (Reader.option r') := by
  intro p n hp
  unfold Reader.option
  simp only [h p _ hp]

theorem list : Reader.Agree room (Reader.list r) (Reader.list r') := by
  intro p n hp
  unfold Reader.list
  refine bind_congr_ok fun n _ => ?_
  cases n with
  | list named items =>
    refine bind_congr_ok fun p' hinside => ?_
    rw [h.inside (Nat.le_of_lt hp) hinside]
  | _ => rfl

theorem table : Reader.Agree room (Reader.table r) (Reader.table r') := by
  intro p n hp
  have hentries : Reader.entries Reader.text r p n = Reader.entries Reader.text r' p n := by
    unfold Reader.entries
    refine bind_congr_ok fun n _ => ?_
    cases n with
    | map named entries =>
      refine bind_congr_ok fun p' hinside => ?_
      rw [h.inside (Nat.le_of_lt hp) hinside]
    | _ => rfl
  show (Reader.entries Reader.text r p n).map _ = (Reader.entries Reader.text r' p n).map _
  rw [hentries]

theorem orElseRef (ofRef : String → α) :
    Reader.Agree room (Reader.orElseRef ofRef r) (Reader.orElseRef ofRef r') := by
  intro p n hp
  unfold Reader.orElseRef
  refine bind_congr_ok fun found hsettled => ?_
  have hp' : found.1.room < room := by
    rw [settled_room hsettled]
    exact hp
  dsimp only
  rw [h found.1 found.2 hp']

end Reader.Agree

/-- A field that is read one level further in is read alike. -/
theorem Reader.Agree.optional {α : Type} {room : Nat} {r r' : Reader α} (h : Reader.Agree room r r')
    {f : Fields} {i : Nat} (hf : ∀ n, f.at? i = some n → f.place.room < room) :
    f.optional i r = f.optional i r' := by
  unfold Fields.optional
  cases hat : f.at? i with
  | none => rfl
  | some n => exact h.option f.place n (hf n hat)

theorem Reader.Agree.defaulted {α : Type} {room : Nat} {r r' : Reader α}
    (h : Reader.Agree room r r') {f : Fields} {i : Nat} {default : α}
    (hf : ∀ n, f.at? i = some n → f.place.room < room) :
    f.defaulted i default r = f.defaulted i default r' := by
  unfold Fields.defaulted
  cases hat : f.at? i with
  | none => rfl
  | some n => exact h f.place n (hf n hat)

/-- Whatever a record is written as, its fields are read where there is less room. -/
theorem Fields.room_lt {names : List String} {p : Place} {n n' : Node} {f : Fields} {i : Nat}
    (h : Fields.of names p n = .ok f) (hat : f.at? i = some n') : f.place.room < p.room := by
  unfold Fields.of at h
  obtain ⟨n'', -, h⟩ := bind_eq_ok h
  split at h
  · obtain ⟨p', hinside, h⟩ := bind_eq_ok h
    obtain ⟨keyed, -, h⟩ := bind_eq_ok h
    obtain ⟨cells, -, h⟩ := bind_eq_ok h
    cases h
    have hroom := (Place.inside_eq_ok hinside).1
    show p'.room < p.room
    omega
  · obtain ⟨p', hinside, h⟩ := bind_eq_ok h
    have hroom := (Place.inside_eq_ok hinside).1
    split at h
    · cases h
    · split at h <;> cases h
      show p'.room < p.room
      omega
  · split at h
    · -- nothing is written, so no field is found
      cases h
      have hmem := List.mem_of_getElem? (Option.join_eq_some_iff.mp hat)
      obtain ⟨name, -, hcell⟩ := List.mem_map.mp hmem
      cases hcell
    · cases h
  · cases h

/-- One reader or, where it fails, another; both look at the settled node. -/
def Reader.orElse {α : Type} (first second : Reader α) : Reader α := fun p n => do
  let (p, n) ← settled p n
  (first p n).orElseLazy fun _ => second p n

theorem Reader.Agree.orElse {α : Type} {room : Nat} {r r' : Reader α} (h : Reader.Agree room r r')
    (first : Reader α) : Reader.Agree room (first.orElse r) (first.orElse r') := by
  intro p n hp
  unfold Reader.orElse
  refine bind_congr_ok fun found hsettled => ?_
  have hp' : found.1.room < room := by
    rw [settled_room hsettled]
    exact hp
  dsimp only
  rw [h found.1 found.2 hp']

/-- **EITHER OF TWO SHAPES IS KEPT** when each is, and the first reader cannot read what is written
    of the second. -/
theorem Reader.Keeps.orElse {α : Type} {room : Nat} {first second : Reader α} {w : α → Json}
    (h : first.Keeps room w) (h' : second.Keeps room w)
    (hother : ∀ {p n a}, second p n = .ok a → ∀ q, ∃ fault, first q (w a).node = .error fault) :
    (first.orElse second).Keeps room w := by
  have hread : ∀ {p n a}, Readable p n → first.orElse second p n = .ok a →
      Readable { p with settled := true } n ∧ (first { p with settled := true } n = .ok a ∨
        second { p with settled := true } n = .ok a) := by
    intro p n a hn ha
    obtain ⟨⟨p', n'⟩, hsettled, ha⟩ := bind_eq_ok ha
    obtain ⟨rfl, rfl, hfits⟩ := hn.of_settled hsettled
    refine ⟨⟨hn.plain, fun _ => hfits⟩, ?_⟩
    dsimp only at ha
    cases hfirst : first { p with settled := true } n' with
    | ok b =>
      rw [hfirst] at ha
      exact .inl ha
    | error fault =>
      rw [hfirst] at ha
      exact .inr ha
  constructor
  · intro p n a hroom hn ha
    obtain ⟨hn, ha | ha⟩ := hread hn ha
    · obtain ⟨hfits, hback⟩ := h.regained (p := { p with settled := true }) hroom hn ha
      refine ⟨hfits, fun q hq => ?_⟩
      show (settled q _ >>= _) = _
      rw [settled_node hq]
      dsimp only [bind, Except.bind]
      rw [hback { q with settled := true } hq]
      rfl
    · obtain ⟨hfits, hback⟩ := h'.regained (p := { p with settled := true }) hroom hn ha
      refine ⟨hfits, fun q hq => ?_⟩
      obtain ⟨fault, hfault⟩ := hother ha { q with settled := true }
      show (settled q _ >>= _) = _
      rw [settled_node hq]
      dsimp only [bind, Except.bind]
      rw [hfault]
      exact hback { q with settled := true } hq
  · intro p n a hroom hn ha hnull
    obtain ⟨hn, ha | ha⟩ := hread hn ha
    · exact h.null (p := { p with settled := true }) hroom hn ha hnull
    · exact h'.null (p := { p with settled := true }) hroom hn ha hnull

end Source

namespace Document

/-! ## §2. Types. -/

theorem TypeName.text_ofText (s : String) : (TypeName.ofText s).text = s := by
  unfold ofText
  split <;> rfl

theorem TypeName.keeps (room : Nat) : TypeName.reader.Keeps room TypeName.toJson := by
  refine Reader.Keeps.text.map fun s => ?_
  unfold toJson
  rw [text_ofText]

theorem TypeSpec.reader_eq :
    TypeSpec.reader
      = (TypeName.reader.map .one).orElse ((Reader.list TypeName.reader).map .several) := by
  funext p n
  unfold TypeSpec.reader Reader.orElse
  cases Source.settled p n with
  | error fault => rfl
  | ok found =>
    dsimp only [bind, Except.bind]
    unfold Reader.map
    cases TypeName.reader found.1 found.2 <;> rfl

theorem TypeSpec.keeps (room : Nat) : TypeSpec.reader.Keeps room TypeSpec.toJson := by
  rw [reader_eq]
  refine .orElse ((TypeName.keeps room).map fun t => rfl) ?_ ?_
  · have hlist : (Reader.list TypeName.reader).Keeps room fun ts => .list (ts.map TypeName.toJson) :=
      .list fun inner _ => TypeName.keeps inner
    exact hlist.map fun ts => rfl
  · intro p n a ha q
    obtain ⟨ts, -, rfl⟩ := map_eq_ok ha
    exact ⟨.shape, rfl⟩

/-! ## §3. Bodies and schemas. -/

namespace Schema

theorem additionalReader_eq {σ : Type} (r : Reader σ) :
    additionalReader r = (Reader.bool.map .allowed).orElse (r.map .schema) := by
  funext p n
  unfold additionalReader Reader.orElse
  cases Source.settled p n with
  | error fault => rfl
  | ok found =>
    dsimp only [bind, Except.bind]
    unfold Reader.map
    cases Reader.bool found.1 found.2 <;> rfl

/-- The parts of a body are read where there is less room than for the body. -/
theorem bodyReader_eq {σ : Type} {r r' : Reader σ} {p : Place} (h : Reader.Agree p.room r r')
    (n : Node) : bodyReader r p n = bodyReader r' p n := by
  unfold bodyReader
  refine bind_congr_ok fun f hf => ?_
  have hroom : ∀ {i : Nat} (n : Node), f.at? i = some n → f.place.room < p.room :=
    fun n hat => Fields.room_lt hf hat
  have hadditional : Reader.Agree p.room (additionalReader r) (additionalReader r') := by
    rw [additionalReader_eq, additionalReader_eq]
    exact (Reader.Agree.map h Additional.schema).orElse _
  rw [h.table.defaulted hroom, hadditional.optional hroom, h.optional hroom,
    h.list.defaulted hroom, h.list.defaulted hroom, h.list.defaulted hroom]

/-- **Step**: what a schema is read by depends on what its parts are read by. -/
theorem reference_or_body_eq {r r' : Reader Schema} {p : Place} (h : Reader.Agree p.room r r')
    (n : Node) : Reader.orElseRef Schema.ref ((bodyReader r).map .inline) p n
      = Reader.orElseRef Schema.ref ((bodyReader r').map .inline) p n := by
  have hbody : Reader.Agree (p.room + 1) (bodyReader r) (bodyReader r') := by
    intro q n hq
    exact bodyReader_eq (fun x n hx => h x n (by omega)) n
  exact (hbody.map Schema.inline).orElseRef Schema.ref p n (Nat.lt_succ_self _)

/-- **A SCHEMA IS READ ALIKE HOWEVER OFTEN IT MAY NEST**, once it may nest as often as there is
    room. -/
theorem readerWithin_eq (depth : Nat) :
    ∀ (p : Place) (n : Node), p.room < depth → readerWithin depth p n = reader p n := by
  induction depth using Nat.strongRecOn with
  | ind depth ih =>
    intro p n hp
    obtain ⟨depth, rfl⟩ : ∃ d, depth = d + 1 := ⟨depth - 1, by omega⟩
    refine reference_or_body_eq (fun q m hq => ?_) n
    rw [ih depth (Nat.lt_succ_self _) q m (by omega), ih p.room hp q m hq]

/-- **THE EQUATION OF THE READER OF SCHEMAS.** -/
theorem reader_eq : reader = Reader.orElseRef .ref ((bodyReader reader).map .inline) := by
  funext p n
  exact reference_or_body_eq (fun q m hq => readerWithin_eq p.room q m hq) n

/-- A schema is written as an object. -/
theorem exists_toJson_eq (s : Schema) : ∃ entries, s.toJson = .object entries := by
  cases s with
  | ref target => exact ⟨_, rfl⟩
  | inline b => exact ⟨_, fold_inline _ _ b⟩

/-- Additional properties are kept when schemas are. -/
theorem additional_keeps {room : Nat} (h : reader.Keeps room toJson) :
    (additionalReader reader).Keeps room fun a => additionalJson (a.map toJson) := by
  rw [additionalReader_eq]
  refine .orElse (Reader.Keeps.bool.map fun b => rfl) (h.map fun s => rfl) ?_
  intro p n a ha q
  obtain ⟨s, -, rfl⟩ := map_eq_ok ha
  obtain ⟨entries, hs⟩ := exists_toJson_eq s
  refine ⟨.shape, ?_⟩
  show (Reader.bool.map Additional.allowed) q (toJson s).node = _
  rw [hs]
  rfl

/-- A body is kept when schemas are, wherever there is less room. -/
theorem body_keeps {room : Nat} (h : ∀ inner < room, reader.Keeps inner toJson) :
    (bodyReader reader).KeepsFields room keywords fun b => bodyJson (b.map toJson) := by
  refine .record (by decide) fun f hf hroom => ?_
  have hpart : reader.Keeps f.place.room toJson := h _ (by omega)
  have hlist : (Reader.list reader).Keeps f.place.room fun l => .list (l.map toJson) :=
    .list fun inner hinner => h _ (by omega)
  have htable : (Reader.table reader).Keeps f.place.room
      fun t => .object (Table.mapValues toJson t) := .table fun inner hinner => h _ (by omega)
  refine .step (.optional hf (TypeSpec.keeps _)) fun type => ?_
  refine .step (.optional hf .text) fun format => ?_
  refine .step (.optional hf .text) fun description => ?_
  refine .step (.optional hf .bool) fun nullable => ?_
  refine .step (.unlessEmpty hf htable) fun properties => ?_
  refine .step (.unlessEmpty hf .texts) fun required => ?_
  refine .step (.optional hf (additional_keeps hpart)) fun additional => ?_
  refine .step (.optional hf hpart) fun items => ?_
  refine .step (.unlessEmpty hf hlist) fun allOf => ?_
  refine .step (.unlessEmpty hf hlist) fun oneOf => ?_
  refine .step (.unlessEmpty hf hlist) fun anyOf => ?_
  refine .step (.unlessEmpty hf .jsons) fun choices => ?_
  refine .step (.optional hf .json) fun defaultValue => ?_
  refine .step (.optional hf .json) fun sample => ?_
  refine .done ?_ rfl
  simp [bodyJson, SchemaBody.map, Table.mapValues, keywords]

/-- **SCHEMAS ARE KEPT.** -/
theorem keeps (room : Nat) : reader.Keeps room toJson := by
  induction room using Nat.strongRecOn with
  | ind room ih =>
    -- the parts of a body are read where there is less room, and there schemas are kept
    have hbody := body_keeps ih
    have hinline : ((bodyReader reader).map .inline).Keeps room toJson :=
      hbody.map fun b => fold_inline _ _ b
    rw [reader_eq]
    refine hinline.orElseRef (fun target => rfl) ?_
    intro p n s hroom hn hs
    obtain ⟨b, hb, rfl⟩ := map_eq_ok hs
    obtain ⟨cells, hcells⟩ := hbody.named hroom hn hb
    have hjson : toJson (.inline b) = bodyJson (b.map toJson) := fold_inline _ _ b
    rw [hjson, hcells]
    exact Json.get?_written_eq_none (by decide) cells

end Schema

end Document

end ApiMethods
