/-
  ApiMethods.Proofs.ReadBack
  ──────────────────────────
  **WHAT IS READ, WRITTEN AND READ AGAIN COMES BACK.**

  A reader `r` KEEPS what it reads, in the writing `w`, when every `a` that it yields at a place with
  so much room is REGAINED: the tree of `w a` fits where `a` was read, and wherever it fits, `r` reads
  `a` off it.  (The converse direction would be wrong: many texts have the same value.)

      r.Keeps room w   :   r p n = .ok a   →   (w a).node fits in room,
                                               r p' (w a).node = .ok a   wherever it fits

  The room is part of the statement because a reader gives up where a text nests too deep, and what
  is written must not nest deeper than what was read.  Each way to make a reader from others carries
  the property along; a list or a table needs it one level further in.
-/
import ApiMethods.Proofs.FreeValues

namespace ApiMethods

/-- Writing entries with distinct keys one after the other yields them as they are. -/
theorem Table.Distinct.ofEntries_eq {κ α : Type} [DecidableEq κ] {t : Table κ α}
    (h : t.Distinct) : Table.ofEntries t = t := by
  suffices hfold : ∀ start : Table κ α, Table.Distinct (start ++ t) →
      t.foldl (fun t e => Table.insert t e.1 e.2) start = start ++ t from hfold [] h
  clear h
  induction t with
  | nil => exact fun start _ => (List.append_nil start).symm
  | cons e rest ih =>
    intro start h
    have hfresh : e.1 ∉ start.keys := by
      intro he
      have h : (start.keys ++ e.1 :: Table.keys rest).Nodup := by
        simpa [Table.Distinct, Table.keys] using h
      exact (List.nodup_append.mp h).2.2 _ he _ List.mem_cons_self rfl
    have hinsert : ∀ t : Table κ α, e.1 ∉ t.keys → Table.insert t e.1 e.2 = t ++ [e] := by
      intro t
      induction t with
      | nil => exact fun _ => rfl
      | cons first rest ih =>
        intro hnot
        have hne : first.1 ≠ e.1 := fun heq => hnot (heq ▸ List.mem_cons_self)
        unfold Table.insert
        rw [if_neg hne, ih fun he => hnot (List.mem_cons_of_mem _ he)]
        rfl
    rw [List.foldl_cons, hinsert start hfresh, ih _ (by simpa using h)]
    simp

namespace Source

/-! ## §1. Places. -/

theorem Place.inside_eq_ok {p p' : Place} (h : p.inside = .ok p') :
    p.room = p'.room + 1 ∧ p'.settled = p.settled := by
  unfold Place.inside at h
  split at h
  · cases h
  · cases h
    refine ⟨?_, rfl⟩
    show p.room = p.room - 1 + 1
    omega

theorem Place.inside_of_room {p : Place} {room : Nat} (h : p.room = room + 1) :
    p.inside = .ok { p with room := room } := by
  unfold Place.inside
  rw [if_neg (by omega), h]
  rfl

theorem Node.IsPlain.eq_of_follow {n n' : Node} (h : n.IsPlain) {o : Origin}
    (hn : o.follow n = .ok n') : n' = n := by
  obtain ⟨room, h⟩ := h
  cases h <;> cases hn <;> rfl

/-- Nothing in a JSON text is blank. -/
theorem Node.IsPlain.isBlank_eq {s : Scalar} (h : (Node.scalar s).IsPlain) :
    s.isBlank = false := by
  obtain ⟨room, h⟩ := h
  cases h with
  | scalar h =>
    cases s with
    | typed p => rfl
    | unreadable => rfl
    | written _ _ _ => cases h
    | absent => cases h

namespace Readable

variable {p p' : Place} (hp : p.inside = .ok p')
include hp

/-- What a list holds is read one level further in. -/
theorem item {named : Bool} {items : List Node} (h : Readable p (.list named items)) :
    ∀ n ∈ items, Readable p' n := by
  intro n hn
  obtain ⟨⟨room, hplain⟩, hfits⟩ := h
  obtain ⟨hroom, hsettled⟩ := Place.inside_eq_ok hp
  obtain ⟨inner, -, hitems⟩ := hplain.of_list
  refine ⟨⟨inner, hitems n hn⟩, fun hs => ?_⟩
  obtain ⟨inner, hinner, hitems⟩ := (hfits (hsettled ▸ hs)).of_list
  cases Nat.succ.inj (hroom.symm.trans hinner)
  exact hitems n hn

/-- What a map holds is read one level further in. -/
theorem entry {named : Bool} {entries : List (Node × Node)}
    (h : Readable p (.map named entries)) :
    ∀ e ∈ entries, Readable p' e.1 ∧ Readable p' e.2 := by
  intro e he
  obtain ⟨⟨room, hplain⟩, hfits⟩ := h
  obtain ⟨hroom, hsettled⟩ := Place.inside_eq_ok hp
  obtain ⟨inner, -, hentries⟩ := hplain.of_map
  have hinside : p'.settled = true → e.1.Fits p'.room ∧ e.2.Fits p'.room := by
    intro hs
    obtain ⟨inner, hinner, hentries⟩ := (hfits (hsettled ▸ hs)).of_map
    cases Nat.succ.inj (hroom.symm.trans hinner)
    exact hentries e he
  exact ⟨⟨⟨inner, (hentries e he).1⟩, fun hs => (hinside hs).1⟩,
    ⟨⟨inner, (hentries e he).2⟩, fun hs => (hinside hs).2⟩⟩

end Readable

/-! ## §2. Keeping. -/

/-- A value is regained: what is written of it fits, and the value is read off it wherever it
    fits. -/
structure Regained {α : Type} (r : Reader α) (w : α → Json) (room : Nat) (a : α) : Prop where
  fits : (w a).node.Fits room
  back : ∀ p : Place, (w a).node.Fits p.room → r p (w a).node = .ok a

namespace Regained

variable {α β : Type} {r : Reader α} {w : α → Json} {room : Nat}

theorem text (s : String) : Regained Reader.text .text room s :=
  ⟨Node.fits_text room s, fun _ _ => rfl⟩

theorem bool (b : Bool) : Regained Reader.bool .bool room b := ⟨.scalar trivial, fun _ _ => rfl⟩

/-- What is made of a value, and written as the value, is regained when the value is. -/
theorem map {a : α} (h : Regained r w room a) {f : α → β} {w' : β → Json} (hw : w' (f a) = w a) :
    Regained (r.map f) w' room (f a) := by
  obtain ⟨hfits, hback⟩ := h
  constructor
  · rwa [hw]
  · intro p hp
    rw [hw] at hp ⊢
    show (r p (w a).node).map f = _
    rw [hback p hp]
    rfl

/-- A list is regained, one level further out, when its items are. -/
theorem list {l : List α} (h : ∀ a ∈ l, Regained r w room a) :
    Regained (Reader.list r) (fun l => .list (l.map w)) (room + 1) l := by
  constructor
  · refine Node.fits_list fun v hv => ?_
    obtain ⟨a, ha, rfl⟩ := List.mem_map.mp hv
    exact (h a ha).fits
  · intro p hp
    obtain ⟨inner, hinner, hitems⟩ := hp.of_node_list
    have hback : ((l.map w).map Json.node).mapM (r { p with room := inner }) = .ok (l.map id) := by
      rw [List.mapM_map, List.mapM_map]
      exact mapM_eq_ok fun a ha => (h a ha).back _ (hitems _ (List.mem_map_of_mem ha))
    rw [Json.node_list]
    show (p.inside >>= fun p => ((l.map w).map Json.node).mapM (r p)) = _
    rw [Place.inside_of_room hinner]
    show ((l.map w).map Json.node).mapM (r { p with room := inner }) = _
    rw [hback, List.map_id]

/-- A table is regained, one level further out, when its values are and its keys are distinct. -/
theorem table {t : Table String α} (hdistinct : t.Distinct) (h : ∀ e ∈ t, Regained r w room e.2) :
    Regained (Reader.table r) (fun t => .object (Table.mapValues w t)) (room + 1) t := by
  constructor
  · refine Node.fits_object fun e he => ?_
    obtain ⟨e', he', rfl⟩ := List.mem_map.mp he
    exact (h e' he').fits
  · intro p hp
    obtain ⟨inner, hinner, hentries⟩ := hp.of_node_object
    have hback : Reader.entries Reader.text r p (Json.object (Table.mapValues w t)).node = .ok t := by
      rw [Json.node_object]
      show (p.inside >>= fun p => _) = _
      rw [Place.inside_of_room hinner]
      show ((t.map fun e => (e.1, w e.2)).map Json.entryNode).mapM _ = _
      rw [List.mapM_map, List.mapM_map]
      refine (mapM_eq_ok (g := id) fun e he => ?_).trans (by rw [List.map_id])
      have hvalue := (h e he).back { p with room := inner } (hentries _ (List.mem_map_of_mem he))
      show (r { p with room := inner } (w e.2).node >>= _) = _
      rw [hvalue]
      rfl
    show (Reader.entries Reader.text r p _).map Table.ofEntries = _
    rw [hback]
    exact congrArg Except.ok hdistinct.ofEntries_eq

/-- The empty table is regained wherever a level may be entered. -/
theorem table_nil (h : 0 < room) :
    Regained (Reader.table r) (fun t => .object (Table.mapValues w t)) room [] := by
  obtain ⟨inner, rfl⟩ : ∃ inner, room = inner + 1 := ⟨room - 1, by omega⟩
  exact .table Table.distinct_nil fun e he => absurd he List.not_mem_nil

end Regained

/-- A reader keeps what it reads: every value it yields is regained, and `null` is written for
    nothing but `null`. -/
structure Reader.Keeps {α : Type} (r : Reader α) (room : Nat) (w : α → Json) : Prop where
  regained : ∀ {p n a}, p.room = room → Readable p n → r p n = .ok a → Regained r w room a
  null : ∀ {p n a}, p.room = room → Readable p n → r p n = .ok a → w a = .null → n = .typed .null

namespace Reader.Keeps

variable {α β : Type} {room : Nat}

theorem text : Reader.text.Keeps room .text where
  regained _ _ _ := .text _
  null _ _ _ h := by cases h

theorem bool : Reader.bool.Keeps room .bool where
  regained _ _ _ := .bool _
  null _ _ _ h := by cases h

/-- Names that are read back one by one. -/
theorem choice {ofName : String → Option α} {name : α → String}
    (h : ∀ a, ofName (name a) = some a) :
    (Reader.choice ofName).Keeps room fun a => .text (name a) where
  regained {_ _ a} _ _ _ := by
    refine ⟨Node.fits_text room _, fun p _ => ?_⟩
    obtain ⟨⟨format, anchors, limit⟩, room, settled⟩ := p
    cases format <;>
      simp only [Reader.choice, Json.node, Node.text, Node.typed, Origin.follow, Scalar.choice, h,
        bind, Except.bind]
  null _ _ _ h := by cases h

/-- What is made of a value is written as the value. -/
theorem map {r : Reader α} {w : α → Json} (h : r.Keeps room w) {f : α → β} {w' : β → Json}
    (hw : ∀ a, w' (f a) = w a) : (r.map f).Keeps room w' where
  regained {p n b} hroom hn hb := by
    obtain ⟨a, ha, rfl⟩ := map_eq_ok hb
    exact (h.regained hroom hn ha).map (hw a)
  null {p n b} hroom hn hb hnull := by
    obtain ⟨a, ha, rfl⟩ := map_eq_ok hb
    rw [hw] at hnull
    exact h.null hroom hn ha hnull

theorem json_eq_ok {p : Place} {n : Node} {v : Json} (hn : Readable p n)
    (hv : Reader.json p n = .ok v) : n.Fits p.room ∧ n.toJson = .ok v := by
  unfold Reader.json at hv
  split at hv
  · -- the node was settled before, and then it has been found to fit
    rename_i hsettled
    exact ⟨hn.fits hsettled, hv⟩
  · obtain ⟨found, hexpand, hv⟩ := bind_eq_ok hv
    obtain ⟨room, hplain⟩ := hn.plain
    have hfits := hplain.of_expand hexpand
    rw [hfits.expand_eq] at hexpand
    cases hexpand
    exact ⟨hfits, hv⟩

/-- A free value is written as it is. -/
theorem json : Reader.json.Keeps room id where
  regained {p n v} hroom hn hv := by
    subst hroom
    obtain ⟨hfits, hread⟩ := json_eq_ok hn hv
    obtain ⟨hfits, hback⟩ := hfits.toJson_node v hread
    refine ⟨hfits, fun p hp => ?_⟩
    unfold Reader.json
    split
    · exact hback
    · rw [Node.Fits.expand_eq hp]
      exact hback
  null {p n v} _ hn hv hnull := by
    subst hnull
    exact Node.eq_null_of_toJson hn.plain (json_eq_ok hn hv).2

/-- **A LIST IS KEPT WHEN ITS ITEMS ARE.** -/
theorem list {r : Reader α} {w : α → Json} (h : ∀ inner, inner + 1 = room → r.Keeps inner w) :
    (Reader.list r).Keeps room fun l => .list (l.map w) where
  regained {p n l} hroom hn hl := by
    unfold Reader.list at hl
    obtain ⟨n', hfollow, hl⟩ := bind_eq_ok hl
    cases hn.plain.eq_of_follow hfollow
    split at hl
    · obtain ⟨p', hinside, hl⟩ := bind_eq_ok hl
      have hinner : p'.room + 1 = room := (Place.inside_eq_ok hinside).1.symm.trans hroom
      rw [← hinner]
      refine .list fun a ha => ?_
      obtain ⟨n, hn', hread⟩ := exists_of_mem_mapM hl ha
      exact (h _ hinner).regained rfl (hn.item hinside n hn') hread
    · rw [hn.plain.isBlank_eq] at hl
      cases hl
    · cases hl
  null _ _ _ h := by cases h

theorem texts : (Reader.list Reader.text).Keeps room Json.texts := .list fun _ _ => .text

theorem jsons : (Reader.list Reader.json).Keeps room .list := by
  have h : (Reader.list Reader.json).Keeps room fun l => .list (l.map id) :=
    .list fun _ _ => .json
  simpa only [List.map_id] using h

/-- **A TABLE IS KEPT WHEN ITS VALUES ARE.** -/
theorem table {r : Reader α} {w : α → Json} (h : ∀ inner, inner + 1 = room → r.Keeps inner w) :
    (Reader.table r).Keeps room fun t => .object (Table.mapValues w t) where
  regained {p n t} hroom hn ht := by
    obtain ⟨es, hes, rfl⟩ := map_eq_ok ht
    unfold Reader.entries at hes
    obtain ⟨n', hfollow, hes⟩ := bind_eq_ok hes
    cases hn.plain.eq_of_follow hfollow
    split at hes
    · obtain ⟨p', hinside, hes⟩ := bind_eq_ok hes
      have hinner : p'.room + 1 = room := (Place.inside_eq_ok hinside).1.symm.trans hroom
      rw [← hinner]
      refine .table (Table.distinct_ofEntries es) fun e he => ?_
      obtain ⟨entry, hentry, hread⟩ := exists_of_mem_mapM hes (Table.mem_ofEntries he)
      obtain ⟨k, -, hread⟩ := bind_eq_ok hread
      obtain ⟨v, hv, hread⟩ := bind_eq_ok hread
      cases hread
      exact (h _ hinner).regained rfl (hn.entry hinside entry hentry).2 hv
    · rw [hn.plain.isBlank_eq] at hes
      cases hes
    · cases hes
  null _ _ _ h := by cases h

end Reader.Keeps

end Source

end ApiMethods
