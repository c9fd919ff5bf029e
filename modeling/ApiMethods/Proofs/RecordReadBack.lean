/-
  ApiMethods.Proofs.RecordReadBack
  ────────────────────────────────
  **A RECORD IS KEPT FIELD BY FIELD.**

  A field is kept when what was read of it is read again off its cell (`Fields.Keeps`), and a record
  is kept when its fields are, one after the other: each step of `Rebuilds` reads a field and adds
  its cell to those that are done, and when all are done these are the cells that the record is
  written with (`Reader.KeepsFields.record`).

      field         left out        cell
      required      is a fault      some (w a)
      always        default         some (w a)
      unlessEmpty   []              none when empty, else some (w l)
      optional      none            none for none, some (w a) for some a

  A record or a reference is kept as well, because no record has a field `$ref`.
-/
import ApiMethods.Proofs.WrittenRecords

namespace ApiMethods

open ApiMethods.Source (Reader Fields Node Place Readable Regained Fault OrRef)

namespace Source.Fields

/-! ## §1. Fields that are kept. -/

/-- The fields are readable, each at the place of the record's fields. -/
def Found (f : Fields) : Prop := ∀ n, some n ∈ f.cells → Readable f.place n

theorem Found.at? {f : Fields} (h : f.Found) {i : Nat} {n : Node} (hn : f.at? i = some n) :
    Readable f.place n :=
  h n (List.mem_of_getElem? (Option.join_eq_some_iff.mp hn))

/-- The value of a field is that of an entry. -/
theorem exists_of_cell {entries : List (Scalar.FieldKey × Node)} {name : String} {place : Nat}
    {n : Node} (h : cell entries name place = .ok (some n)) : ∃ e ∈ entries, e.2 = n := by
  unfold cell at h
  split at h
  · cases h
  · rename_i e heq
    cases h
    have he : e ∈ entries.filter fun e => keyed name place e.1 := by
      rw [heq]
      exact List.mem_singleton.mpr rfl
    exact ⟨e, (List.mem_filter.mp he).1, rfl⟩
  · cases h

/-- **THE FIELDS OF A RECORD ARE READ ONE LEVEL FURTHER IN**, in whichever way it is written. -/
theorem found_of {names : List String} {p : Place} {n : Node} {f : Fields} (hn : Readable p n)
    (h : Fields.of names p n = .ok f) : f.place.room + 1 = p.room ∧ f.Found := by
  unfold Fields.of at h
  obtain ⟨n', hfollow, h⟩ := bind_eq_ok h
  cases hn.plain.eq_of_follow hfollow
  split at h
  · -- written as an object: a field is the value of an entry
    obtain ⟨p', hinside, h⟩ := bind_eq_ok h
    obtain ⟨keyed, hkeyed, h⟩ := bind_eq_ok h
    obtain ⟨cells, hcells, h⟩ := bind_eq_ok h
    cases h
    refine ⟨(Place.inside_eq_ok hinside).1.symm, fun n hmem => ?_⟩
    obtain ⟨x, -, hcell⟩ := exists_of_mem_mapM hcells hmem
    obtain ⟨e, he, rfl⟩ := exists_of_cell hcell
    obtain ⟨entry, hentry, hkey⟩ := exists_of_mem_mapM hkeyed he
    obtain ⟨key, -, hkey⟩ := bind_eq_ok hkey
    cases hkey
    exact (hn.entry hinside entry hentry).2
  · -- written as a list: a field is an item, or missing at the end
    obtain ⟨p', hinside, h⟩ := bind_eq_ok h
    split at h
    · cases h
    · split at h
      · cases h
      · cases h
        refine ⟨(Place.inside_eq_ok hinside).1.symm, fun n hmem => ?_⟩
        rcases List.mem_append.mp hmem with hmem | hmem
        · obtain ⟨item, hitem, heq⟩ := List.mem_map.mp hmem
          cases heq
          exact hn.item hinside n hitem
        · cases List.eq_of_mem_replicate hmem
  · rw [hn.plain.isBlank_eq] at h
    cases h
  · cases h

/-- A value that may be nothing was read as a value off something. -/
theorem of_option {α : Type} {r : Reader α} {p : Place} {n : Node} {a : α} (hn : Readable p n)
    (h : Reader.option r p n = .ok (some a)) : r p n = .ok a ∧ n ≠ .typed .null := by
  have hsome : ∀ w : Except Fault α, w.map some = .ok (some a) → w = .ok a := by
    intro w hw
    obtain ⟨a', rfl, ha'⟩ := map_eq_ok hw
    rw [Option.some.inj ha']
  unfold Reader.option at h
  obtain ⟨n', hfollow, h⟩ := bind_eq_ok h
  cases hn.plain.eq_of_follow hfollow
  split at h
  · obtain ⟨nothing, hnothing, h⟩ := bind_eq_ok h
    split at h
    · cases h
    · rename_i hfalse
      refine ⟨hsome _ h, ?_⟩
      rintro heq
      cases heq
      cases hnothing
      exact hfalse rfl
  · rename_i hscalar
    exact ⟨hsome _ h, hscalar _⟩

/-- Of a value that is not `null` something is read. -/
theorem option_node {α : Type} (r : Reader α) (p : Place) {v : Json} (h : v ≠ .null) :
    Reader.option r p v.node = (r p v.node).map some := by
  cases v with
  | null => exact absurd rfl h
  | _ => rfl

/-- A field is KEPT when what is read of it is read again off its cell. -/
structure Keeps {β : Type} (f : Fields) (i : Nat) (field : Fields → Except Fault β)
    (cell : β → Option Json) : Prop where
  fits : ∀ b, field f = .ok b → ∀ v, cell b = some v → v.node.Fits f.place.room
  back : ∀ b, field f = .ok b → ∀ f' : Fields, f'.listed = false →
    f'.at? i = (cell b).map Json.node → (∀ v, cell b = some v → v.node.Fits f'.place.room) →
    field f' = .ok b

namespace Keeps

variable {α : Type} {f : Fields} (hf : f.Found) {i : Nat} {r : Reader α} {w : α → Json}
include hf

/-- A field that has to be given. -/
theorem required (h : r.Keeps f.place.room w) :
    f.Keeps i (fun f => f.required i r) fun a => some (w a) := by
  have hread : ∀ a, f.required i r = .ok a → Regained r w f.place.room a := by
    intro a ha
    unfold Fields.required at ha
    split at ha
    · rename_i n hn
      exact h.regained rfl (hf.at? hn) ha
    · cases ha
  refine ⟨fun a ha v hv => ?_, fun a ha f' _ hat hfits => ?_⟩
  · cases hv
    exact (hread a ha).fits
  · unfold Fields.required
    rw [hat]
    exact (hread a ha).back f'.place (hfits _ rfl)

/-- A field that is always written, though it may be left out. -/
theorem always (h : r.Keeps f.place.room w) {default : α}
    (hdefault : Regained r w f.place.room default) :
    f.Keeps i (fun f => f.defaulted i default r) fun a => some (w a) := by
  have hread : ∀ a, f.defaulted i default r = .ok a → Regained r w f.place.room a := by
    intro a ha
    unfold Fields.defaulted at ha
    split at ha
    · rename_i n hn
      exact h.regained rfl (hf.at? hn) ha
    · cases ha
      exact hdefault
  refine ⟨fun a ha v hv => ?_, fun a ha f' _ hat hfits => ?_⟩
  · cases hv
    exact (hread a ha).fits
  · unfold Fields.defaulted
    rw [hat]
    exact (hread a ha).back f'.place (hfits _ rfl)

/-- A list or a table that is left out when it is empty. -/
theorem unlessEmpty {r : Reader (List α)} {w : List α → Json} (h : r.Keeps f.place.room w) :
    f.Keeps i (fun f => f.defaulted i [] r) (Json.unlessNil w) := by
  have hread : ∀ l, f.defaulted i [] r = .ok l → l = [] ∨ Regained r w f.place.room l := by
    intro l hl
    unfold Fields.defaulted at hl
    split at hl
    · rename_i n hn
      exact .inr (h.regained rfl (hf.at? hn) hl)
    · cases hl
      exact .inl rfl
  refine ⟨fun l hl v hv => ?_, fun l hl f' _ hat hfits => ?_⟩
  · rcases hread l hl with rfl | hl
    · cases hv
    · cases l with
      | nil => cases hv
      | cons a rest =>
        cases hv
        exact hl.fits
  · unfold Fields.defaulted
    rw [hat]
    cases l with
    | nil => rfl
    | cons a rest =>
      obtain ⟨-, hback⟩ := (hread _ hl).resolve_left (List.cons_ne_nil a rest)
      exact hback f'.place (hfits _ rfl)

/-- A field that may be left out or be nothing. -/
theorem optional (h : r.Keeps f.place.room w) :
    f.Keeps i (fun f => f.optional i r) (Option.map w) := by
  have hread : ∀ a, f.optional i r = .ok (some a) →
      Regained r w f.place.room a ∧ w a ≠ .null := by
    intro a ha
    unfold Fields.optional at ha
    split at ha
    · rename_i n hn
      obtain ⟨hread, hne⟩ := of_option (hf.at? hn) ha
      exact ⟨h.regained rfl (hf.at? hn) hread, fun hnull => hne (h.null rfl (hf.at? hn) hread hnull)⟩
    · split at ha <;> cases ha
  refine ⟨fun o ho v hv => ?_, fun o ho f' hlisted hat hfits => ?_⟩
  · obtain ⟨a, rfl, rfl⟩ := Option.map_eq_some_iff.mp hv
    exact (hread a ho).1.fits
  · unfold Fields.optional
    rw [hat]
    cases o with
    | none =>
      show (if f'.listed then _ else _) = _
      rw [hlisted]
      rfl
    | some a =>
      obtain ⟨⟨-, hback⟩, hne⟩ := hread a ho
      show Reader.option r f'.place (w a).node = _
      rw [option_node r f'.place hne, hback f'.place (hfits _ rfl)]
      rfl

end Keeps

end Source.Fields

/-! ## §2. Records. -/

namespace Source

section Record

variable {α β : Type} {f : Fields} {names : List String} {w : α → Json}

/-- `f` has these cells, each of which fits. -/
structure Fields.Holds (f : Fields) (cells : List (Option Json)) : Prop where
  listed : f.listed = false
  eq_nodes : f.cells = cells.map (Option.map Json.node)
  fits : ∀ v, some v ∈ cells → v.node.Fits f.place.room

theorem Fields.Holds.at? {cells rest : List (Option Json)} {cell : Option Json}
    (h : f.Holds (cells ++ cell :: rest)) : f.at? cells.length = cell.map Json.node := by
  unfold Fields.at?
  rw [h.eq_nodes, List.getElem?_map, List.getElem?_append_right (Nat.le_refl _), Nat.sub_self]
  rfl

/-- What is still to be read of a record once `i` fields are done, with their cells: whatever it
    yields is written with these cells and some more, and is read again off fields that hold them
    all. -/
def Rebuilds (f : Fields) (names : List String) (w : α → Json) (i : Nat) (done : List (Option Json))
    (look : Fields → Except Fault α) : Prop :=
  done.length = i → ∀ a, look f = .ok a → ∃ more : List (Option Json),
    w a = .object (Json.written names (done ++ more)) ∧
    (done ++ more).length = names.length ∧
    (∀ v, some v ∈ more → v.node.Fits f.place.room) ∧
    ∀ f' : Fields, f'.Holds (done ++ more) → look f' = .ok a

namespace Rebuilds

variable {i : Nat}

/-- **Step**: one field is read. -/
theorem step {done : List (Option Json)} {field : Fields → Except Fault β}
    {cell : β → Option Json} {next : β → Fields → Except Fault α} (hfield : f.Keeps i field cell)
    (hnext : ∀ b, Rebuilds f names w (i + 1) (done ++ [cell b]) (next b)) :
    Rebuilds f names w i done fun f => field f >>= fun b => next b f := by
  rintro rfl a ha
  obtain ⟨b, hb, ha⟩ := bind_eq_ok ha
  obtain ⟨more, hw, hlength, hfits, hback⟩ := hnext b (List.length_append ..) a ha
  -- the cell of the field is the first of those that are still to come
  have hcells : done ++ [cell b] ++ more = done ++ cell b :: more := List.append_cons .. |>.symm
  rw [hcells] at hw hlength hback
  refine ⟨cell b :: more, hw, hlength, ?_, ?_⟩
  · intro v hv
    rcases List.mem_cons.mp hv with hv | hv
    · exact hfield.fits b hb v hv.symm
    · exact hfits v hv
  · intro f' hf'
    have hcell : ∀ v, cell b = some v → v.node.Fits f'.place.room := fun v hv =>
      hf'.fits v (List.mem_append_right _ (hv ▸ List.mem_cons_self))
    show (field f' >>= _) = _
    rw [hfield.back b hb f' hf'.listed hf'.at? hcell]
    exact hback f' hf'

/-- All fields have been read. -/
theorem done {a : α} {cells : List (Option Json)} (hw : w a = .object (Json.written names cells))
    (hall : i = names.length) : Rebuilds f names w i cells fun _ => .ok a := by
  rintro hlength a' ⟨⟩
  refine ⟨[], ?_, ?_, fun v hv => absurd hv List.not_mem_nil, fun _ _ => rfl⟩
  · rwa [List.append_nil]
  · rw [List.append_nil, hlength, hall]

end Rebuilds

/-- A record is regained, one level further out, when its cells fit and it is rebuilt from them. -/
theorem Regained.record {room : Nat} {look : Fields → Except Fault α} {a : α}
    {cells : List (Option Json)} (hnames : names.Nodup)
    (hw : w a = .object (Json.written names cells)) (hlength : cells.length = names.length)
    (hfits : ∀ v, some v ∈ cells → v.node.Fits room)
    (hback : ∀ f : Fields, f.Holds cells → look f = .ok a) :
    Regained (fun p n => Fields.of names p n >>= look) w (room + 1) a := by
  constructor
  · rw [hw]
    exact Node.fits_object fun e he => hfits e.2 (Json.mem_cells_of_mem_written he)
  · intro p hp
    rw [hw] at hp ⊢
    obtain ⟨inner, hinner, hentries⟩ := hp.of_node_object
    show (Fields.of names p (Json.object (Json.written names cells)).node >>= look) = _
    rw [Fields.of_written hnames hlength hinner]
    refine hback _ ⟨rfl, rfl, fun v hv => ?_⟩
    obtain ⟨name, hmem⟩ := Json.exists_mem_written hlength hv
    exact hentries _ hmem

/-- A reader keeps records, which are written under these names. -/
structure Reader.KeepsFields (r : Reader α) (room : Nat) (names : List String) (w : α → Json) : Prop
    extends r.Keeps room w where
  named : ∀ {p n a}, p.room = room → Readable p n → r p n = .ok a →
    ∃ cells, w a = .object (Json.written names cells)

/-- **A RECORD IS KEPT WHEN IT IS REBUILT FROM ITS CELLS.** -/
theorem Reader.KeepsFields.record {room : Nat} {look : Fields → Except Fault α}
    (hnames : names.Nodup)
    (h : ∀ f : Fields, f.Found → f.place.room + 1 = room → Rebuilds f names w 0 [] look) :
    Reader.KeepsFields (fun p n => Fields.of names p n >>= look) room names w := by
  have hnamed : ∀ {p n a}, p.room = room → Readable p n →
      (Fields.of names p n >>= look) = .ok a → ∃ cells, w a = .object (Json.written names cells) := by
    intro p n a hroom hn ha
    obtain ⟨f, hf, ha⟩ := bind_eq_ok ha
    obtain ⟨hinner, hfound⟩ := Fields.found_of hn hf
    obtain ⟨cells, hw, -⟩ := h f hfound (hinner.trans hroom) rfl a ha
    exact ⟨cells, hw⟩
  refine ⟨⟨?_, ?_⟩, hnamed⟩
  · intro p n a hroom hn ha
    obtain ⟨f, hf, ha⟩ := bind_eq_ok ha
    obtain ⟨hinner, hfound⟩ := Fields.found_of hn hf
    rw [hroom] at hinner
    obtain ⟨cells, hw, hlength, hfits, hback⟩ := h f hfound hinner rfl a ha
    rw [← hinner]
    exact .record hnames hw hlength hfits hback
  · intro p n a hroom hn ha hnull
    obtain ⟨cells, hw⟩ := hnamed hroom hn ha
    rw [hnull] at hw
    cases hw

end Record

/-! ## §3. References. -/

section Reference

variable {α : Type} {room : Nat}

theorem refJson_eq_written (target : String) :
    OrRef.refJson target = .object (Json.written ["$ref"] [some (.text target)]) := rfl

theorem reference?_refJson {p : Place} (h : p.room = room + 1) (target : String) :
    reference? p (OrRef.refJson target).node = some target := by
  show ((Fields.of ["$ref"] p (OrRef.refJson target).node) >>=
    (·.required 0 Reader.text)).toOption = _
  rw [refJson_eq_written, Fields.of_written (by decide) rfl h]
  rfl

/-- A value without a field `$ref` is no reference. -/
theorem reference?_eq_none (p : Place) {v : Json} (h : v.get? "$ref" = none) :
    reference? p v.node = none := by
  cases v with
  | object entries =>
    have hcell : Fields.cell (entries.map Fields.named) "$ref" 0 = .ok none := by
      have hnone : (entries.map Fields.named).filter (fun e => Fields.keyed "$ref" 0 e.1) = [] := by
        refine List.filter_eq_nil_iff.mpr fun e he hkey => ?_
        obtain ⟨e', he', rfl⟩ := List.mem_map.mp he
        have hne := List.lookup_eq_none_iff.mp h e' he'
        have heq : e'.1 = "$ref" := eq_of_beq hkey
        simp [heq] at hne
      unfold Fields.cell
      rw [hnone]
    show ((Fields.of ["$ref"] p (Json.object entries).node) >>=
      (·.required 0 Reader.text)).toOption = none
    rw [Fields.of_object]
    cases p.inside with
    | error fault => rfl
    | ok q =>
      show (((Fields.cell (entries.map Fields.named) "$ref" 0 >>= fun cell => .ok [cell]) >>=
        fun cells => .ok (Fields.mk q cells false)) >>= (·.required 0 Reader.text)).toOption = none
      rw [hcell]
      rfl
  | _ => rfl

/-- A written value is settled before it is told whether it is a reference. -/
theorem orElseRef_node (ofRef : String → α) (r : Reader α) {p : Place} {v : Json}
    (h : v.node.Fits p.room) :
    Reader.orElseRef ofRef r p v.node
      = (reference? { p with settled := true } v.node).elim (r { p with settled := true } v.node)
          fun target => .ok (ofRef target) := by
  show (settled p v.node >>= _) = _
  rw [settled_node h]
  dsimp only [bind, Except.bind]
  cases reference? { p with settled := true } v.node <;> rfl

/-- **A VALUE OR A REFERENCE IS KEPT** when values are, and no value looks like a reference. -/
theorem Reader.Keeps.orElseRef {r : Reader α} {w : α → Json} (h : r.Keeps room w)
    {ofRef : String → α} (href : ∀ target, w (ofRef target) = OrRef.refJson target)
    (hvalue : ∀ {p n a}, p.room = room → Readable p n → r p n = .ok a →
      (w a).get? "$ref" = none) :
    (Reader.orElseRef ofRef r).Keeps room w := by
  have hread : ∀ {p n a}, p.room = room → Readable p n → Reader.orElseRef ofRef r p n = .ok a →
      (∃ target inner, a = ofRef target ∧ room = inner + 1) ∨
        r { p with settled := true } n = .ok a ∧ Readable { p with settled := true } n := by
    intro p n a hroom hn ha
    obtain ⟨⟨p', n'⟩, hsettled, ha⟩ := bind_eq_ok ha
    obtain ⟨rfl, rfl, hfits⟩ := hn.of_settled hsettled
    dsimp only at ha
    split at ha
    · rename_i target hreference
      cases ha
      cases n' with
      | map named entries =>
        obtain ⟨inner, hinner, -⟩ := hfits.of_map
        exact .inl ⟨target, inner, rfl, hroom.symm.trans hinner⟩
      | _ => cases hreference
    · exact .inr ⟨ha, hn.plain, fun _ => hfits⟩
  constructor
  · intro p n a hroom hn ha
    rcases hread hroom hn ha with ⟨target, inner, rfl, rfl⟩ | ⟨ha, hn⟩
    · -- the reference was read off an object, so there is a level to write it as one
      constructor
      · rw [href]
        refine Node.fits_object fun e he => ?_
        cases List.mem_singleton.mp he
        exact Node.fits_text inner target
      · intro q hq
        rw [href] at hq ⊢
        obtain ⟨inner, hinner, -⟩ := Node.Fits.of_node_object hq
        rw [orElseRef_node ofRef r hq, reference?_refJson (p := { q with settled := true }) hinner]
        rfl
    · obtain ⟨hfits, hback⟩ := h.regained (p := { p with settled := true }) hroom hn ha
      refine ⟨hfits, fun q hq => ?_⟩
      have hnone := hvalue (p := { p with settled := true }) hroom hn ha
      rw [orElseRef_node ofRef r hq, reference?_eq_none _ hnone]
      exact hback { q with settled := true } hq
  · intro p n a hroom hn ha hnull
    rcases hread hroom hn ha with ⟨target, inner, rfl, -⟩ | ⟨ha, hn⟩
    · rw [href] at hnull
      cases hnull
    · exact h.null (p := { p with settled := true }) hroom hn ha hnull

/-- A record or a reference to one. -/
theorem Reader.KeepsFields.orRef {r : Reader α} {names : List String} {w : α → Json}
    (h : r.KeepsFields room names w) (hnames : "$ref" ∉ names) :
    (Reader.orRef r).Keeps room (OrRef.toJson w) := by
  have hinline : (r.map OrRef.inline).Keeps room (OrRef.toJson w) := h.map fun _ => rfl
  show (Reader.orElseRef .ref (r.map OrRef.inline)).Keeps room (OrRef.toJson w)
  refine hinline.orElseRef (fun target => rfl) ?_
  intro p n o hroom hn ho
  obtain ⟨a, ha, rfl⟩ := map_eq_ok ho
  obtain ⟨cells, hw⟩ := h.named hroom hn ha
  show (w a).get? "$ref" = none
  rw [hw]
  exact Json.get?_written_eq_none hnames cells

end Reference

end Source

end ApiMethods
