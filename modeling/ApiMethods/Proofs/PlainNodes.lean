/-
  ApiMethods.Proofs.PlainNodes
  ────────────────────────────
  **THE TREE OF A JSON TEXT IS PLAIN, AND SETTLING IT CHANGES NOTHING.**

  A PLAIN node has no aliases and no local tags, each of its scalars has its type on its face, and
  its whole numbers are in range.  `Node.Fits room n` says that `n` is plain and nests at most `room`
  times.

    • The tree of a JSON text is plain (`isPlain_node?`).
    • A plain node that is settled stays as it is, and has been found to fit
      (`Readable.of_settled`).
    • The tree of a value is settled wherever it fits (`settled_node`), and its compact text is read
      as the tree (`node?_compact_of_fits`).
-/
import Mathlib.Data.List.Basic
import ApiMethods.Proofs.JsonReading
import ApiMethods.Proofs.Stages
import ApiMethods.Source.Reader

namespace ApiMethods.Source

/-! ## §1. Plain nodes. -/

/-- A scalar as a JSON text has it. -/
def Scalar.IsPlain : Scalar → Prop
  | .typed (.number (.whole n)) => Number.Value.inRange n = true
  | .typed .notFinite => False
  | .typed _ => True
  | .unreadable => True
  | _ => False

namespace Node

/-- A node as a JSON text has it, that nests at most so many times. -/
inductive Fits : Nat → Node → Prop
  | scalar {room : Nat} {s : Scalar} (h : s.IsPlain) : Fits room (.scalar s)
  | list {room : Nat} {items : List Node} (h : ∀ n ∈ items, Fits room n) :
    Fits (room + 1) (.list false items)
  | map {room : Nat} {entries : List (Node × Node)} (hkeys : ∀ e ∈ entries, Fits room e.1)
    (hvalues : ∀ e ∈ entries, Fits room e.2) : Fits (room + 1) (.map false entries)

/-- A node as a JSON text has it. -/
def IsPlain (n : Node) : Prop := ∃ room, n.Fits room

theorem fits_text (room : Nat) (s : String) : (text s).Fits room := .scalar trivial

theorem Fits.of_list {room : Nat} {named : Bool} {items : List Node}
    (h : (Node.list named items).Fits room) :
    ∃ inner, room = inner + 1 ∧ ∀ n ∈ items, n.Fits inner := by
  cases h with
  | list h => exact ⟨_, rfl, h⟩

theorem Fits.of_map {room : Nat} {named : Bool} {entries : List (Node × Node)}
    (h : (Node.map named entries).Fits room) :
    ∃ inner, room = inner + 1 ∧ ∀ e ∈ entries, e.1.Fits inner ∧ e.2.Fits inner := by
  cases h with
  | map hkeys hvalues => exact ⟨_, rfl, fun e he => ⟨hkeys e he, hvalues e he⟩⟩

/-! What is written fits when what it is written of does, and the other way round. -/

theorem fits_list {room : Nat} {items : List Json} (h : ∀ v ∈ items, v.node.Fits room) :
    (Json.list items).node.Fits (room + 1) := by
  rw [Json.node_list]
  refine .list fun n hn => ?_
  obtain ⟨v, hv, rfl⟩ := List.mem_map.mp hn
  exact h v hv

theorem fits_object {room : Nat} {entries : List (String × Json)}
    (h : ∀ e ∈ entries, e.2.node.Fits room) : (Json.object entries).node.Fits (room + 1) := by
  rw [Json.node_object]
  refine .map (fun e he => ?_) fun e he => ?_
  · obtain ⟨e', -, rfl⟩ := List.mem_map.mp he
    exact fits_text room e'.1
  · obtain ⟨e', he', rfl⟩ := List.mem_map.mp he
    exact h e' he'

theorem Fits.of_node_list {room : Nat} {items : List Json} (h : (Json.list items).node.Fits room) :
    ∃ inner, room = inner + 1 ∧ ∀ v ∈ items, v.node.Fits inner := by
  rw [Json.node_list] at h
  obtain ⟨inner, hinner, hitems⟩ := h.of_list
  exact ⟨inner, hinner, fun v hv => hitems v.node (List.mem_map_of_mem hv)⟩

theorem Fits.of_node_object {room : Nat} {entries : List (String × Json)}
    (h : (Json.object entries).node.Fits room) :
    ∃ inner, room = inner + 1 ∧ ∀ e ∈ entries, e.2.node.Fits inner := by
  rw [Json.node_object] at h
  obtain ⟨inner, hinner, hentries⟩ := h.of_map
  exact ⟨inner, hinner, fun e he => (hentries (Json.entryNode e) (List.mem_map_of_mem he)).2⟩

theorem Fits.mono {room room' : Nat} {n : Node} (h : n.Fits room) (hroom : room ≤ room') :
    n.Fits room' := by
  induction h generalizing room' with
  | scalar h => exact .scalar h
  | list _ ih =>
    obtain ⟨room', rfl⟩ : ∃ r, room' = r + 1 := ⟨room' - 1, by omega⟩
    exact .list fun n hn => ih n hn (by omega)
  | map _ _ ihkeys ihvalues =>
    obtain ⟨room', rfl⟩ : ∃ r, room' = r + 1 := ⟨room' - 1, by omega⟩
    exact .map (fun e he => ihkeys e he (by omega)) fun e he => ihvalues e he (by omega)

/-- Plain nodes fit together when there is room for each. -/
theorem exists_room {items : List Node} (h : ∀ n ∈ items, n.IsPlain) :
    ∃ room, ∀ n ∈ items, n.Fits room := by
  induction items with
  | nil => exact ⟨0, fun n hn => absurd hn List.not_mem_nil⟩
  | cons first rest ih =>
    obtain ⟨room, hfirst⟩ := h first List.mem_cons_self
    obtain ⟨room', hrest⟩ := ih fun n hn => h n (List.mem_cons_of_mem _ hn)
    refine ⟨max room room', ?_⟩
    intro n hn
    rcases List.mem_cons.mp hn with rfl | hn
    · exact hfirst.mono (Nat.le_max_left _ _)
    · exact (hrest n hn).mono (Nat.le_max_right _ _)

theorem isPlain_scalar {s : Scalar} (h : s.IsPlain) : (Node.scalar s).IsPlain := ⟨0, .scalar h⟩

/-! A collection is plain when what it holds is. -/

theorem isPlain_list {items : List Node} (h : ∀ n ∈ items, n.IsPlain) :
    (Node.list false items).IsPlain := by
  obtain ⟨room, hroom⟩ := exists_room h
  exact ⟨room + 1, .list hroom⟩

theorem isPlain_map {entries : List (Node × Node)} (hkeys : ∀ e ∈ entries, e.1.IsPlain)
    (hvalues : ∀ e ∈ entries, e.2.IsPlain) : (Node.map false entries).IsPlain := by
  obtain ⟨room, hroom⟩ : ∃ room, ∀ k ∈ entries.map Prod.fst, Node.Fits room k :=
    exists_room (List.forall_mem_map.mpr hkeys)
  obtain ⟨room', hroom'⟩ : ∃ room, ∀ v ∈ entries.map Prod.snd, Node.Fits room v :=
    exists_room (List.forall_mem_map.mpr hvalues)
  refine ⟨max room room' + 1, .map ?_ ?_⟩
  · intro e he
    exact (hroom _ (List.mem_map_of_mem he)).mono (Nat.le_max_left _ _)
  · intro e he
    exact (hroom' _ (List.mem_map_of_mem he)).mono (Nat.le_max_right _ _)

end Node

/-! ## §2. The tree of a text. -/

namespace JsonText

open ApiMethods.Json (NumberLiteral)

theorem isPlain_string? {cs : List Char} {found : Scalar × List Char}
    (h : string? cs = some found) : found.1.IsPlain := by
  obtain ⟨found, -, rfl⟩ := Option.map_eq_some_iff.mp h
  show found.1.scalar.IsPlain
  unfold Read.scalar
  split <;> trivial

/-- The whole number of a literal is in range. -/
theorem isPlain_numberScalar (l : NumberLiteral) : (numberScalar l).IsPlain := by
  unfold numberScalar
  split
  · rename_i n hn
    cases n with
    | fraction x => trivial
    | whole n =>
      have hlimit : NumberLiteral.significandLimit = 2 ^ 64 - 1 := rfl
      have hleast : Nat.pow 2 63 = 2 ^ 63 := rfl
      unfold NumberLiteral.value? at hn
      dsimp only at hn
      -- a literal denotes a whole number only within the two 64-bit ranges
      have hrange : -(2 : Int) ^ 63 ≤ n ∧ n < 2 ^ 64 := by
        split_ifs at hn with hwhole hpositive hsmall
        · cases hn
          omega
        · cases hn
          omega
        · obtain ⟨x, -, hx⟩ := Option.map_eq_some_iff.mp hn
          cases hx
        · obtain ⟨x, -, hx⟩ := Option.map_eq_some_iff.mp hn
          cases hx
      show Number.Value.inRange n = true
      unfold Number.Value.inRange
      rw [Bool.and_eq_true, decide_eq_true_eq, decide_eq_true_eq]
      exact hrange
  · trivial

/-- What is read with so much fuel is plain. -/
structure ReadsPlain (fuel : Nat) : Prop where
  value : ∀ cs n rest, value? fuel cs = some (n, rest) → n.IsPlain
  items : ∀ cs items rest, items? fuel cs = some (items, rest) → ∀ n ∈ items, n.IsPlain
  keys : ∀ cs entries rest, entries? fuel cs = some (entries, rest) → ∀ e ∈ entries, e.1.IsPlain
  values : ∀ cs entries rest, entries? fuel cs = some (entries, rest) → ∀ e ∈ entries, e.2.IsPlain

namespace ReadsPlain

variable {fuel : Nat} (ih : ReadsPlain fuel)
include ih

theorem value_succ {cs rest : List Char} {n : Node} (h : value? (fuel + 1) cs = some (n, rest)) :
    n.IsPlain := by
  unfold value? at h
  split at h
  · obtain ⟨found, hstring, h⟩ := Option.bind_eq_some_iff.mp h
    cases h
    exact Node.isPlain_scalar (isPlain_string? hstring)
  · split at h
    · cases h
      exact Node.isPlain_list fun n hn => absurd hn List.not_mem_nil
    · obtain ⟨⟨items, rest'⟩, hitems, h⟩ := Option.bind_eq_some_iff.mp h
      cases h
      exact Node.isPlain_list (ih.items _ _ _ hitems)
  · split at h
    · cases h
      exact Node.isPlain_map (fun e he => absurd he List.not_mem_nil)
        fun e he => absurd he List.not_mem_nil
    · obtain ⟨⟨entries, rest'⟩, hentries, h⟩ := Option.bind_eq_some_iff.mp h
      cases h
      exact Node.isPlain_map (ih.keys _ _ _ hentries) (ih.values _ _ _ hentries)
  · cases h
    exact Node.isPlain_scalar trivial
  · cases h
    exact Node.isPlain_scalar trivial
  · cases h
    exact Node.isPlain_scalar trivial
  · obtain ⟨found, -, h⟩ := Option.bind_eq_some_iff.mp h
    cases h
    exact Node.isPlain_scalar (isPlain_numberScalar _)

theorem items_succ {cs rest : List Char} {items : List Node}
    (h : items? (fuel + 1) cs = some (items, rest)) : ∀ n ∈ items, n.IsPlain := by
  unfold items? at h
  obtain ⟨⟨n, rest'⟩, hn, h⟩ := Option.bind_eq_some_iff.mp h
  have hplain := ih.value _ _ _ hn
  dsimp only at h
  split at h
  · obtain ⟨⟨more, rest''⟩, hmore, h⟩ := Option.bind_eq_some_iff.mp h
    cases h
    exact List.forall_mem_cons.mpr ⟨hplain, ih.items _ _ _ hmore⟩
  · cases h
    exact List.forall_mem_singleton.mpr hplain
  · cases h

theorem entries_succ {cs rest : List Char} {entries : List (Node × Node)}
    (h : entries? (fuel + 1) cs = some (entries, rest)) :
    (∀ e ∈ entries, e.1.IsPlain) ∧ ∀ e ∈ entries, e.2.IsPlain := by
  unfold entries? at h
  dsimp only at h
  split at h
  · obtain ⟨key, hkey, h⟩ := Option.bind_eq_some_iff.mp h
    have hk := Node.isPlain_scalar (isPlain_string? hkey)
    split at h
    · obtain ⟨⟨n, rest'⟩, hn, h⟩ := Option.bind_eq_some_iff.mp h
      have hv := ih.value _ _ _ hn
      split at h
      · obtain ⟨⟨more, rest''⟩, hmore, h⟩ := Option.bind_eq_some_iff.mp h
        cases h
        exact ⟨List.forall_mem_cons.mpr ⟨hk, ih.keys _ _ _ hmore⟩,
          List.forall_mem_cons.mpr ⟨hv, ih.values _ _ _ hmore⟩⟩
      · cases h
        exact ⟨List.forall_mem_singleton.mpr hk, List.forall_mem_singleton.mpr hv⟩
      · cases h
    · cases h
  · cases h

end ReadsPlain

theorem readsPlain (fuel : Nat) : ReadsPlain fuel := by
  induction fuel with
  | zero => constructor <;> rintro _ _ _ ⟨⟩
  | succ fuel ih =>
    exact ⟨fun _ _ _ h => ih.value_succ h, fun _ _ _ h => ih.items_succ h,
      fun _ _ _ h => (ih.entries_succ h).1, fun _ _ _ h => (ih.entries_succ h).2⟩

/-- **THE TREE OF A TEXT IS PLAIN.** -/
theorem isPlain_node? {text : String} {n : Node} (h : node? text = some n) : n.IsPlain := by
  unfold node? at h
  obtain ⟨⟨n', rest⟩, hread, h⟩ := Option.bind_eq_some_iff.mp h
  dsimp only at h
  split at h
  · cases h
    exact (readsPlain _).value _ _ _ hread
  · cases h

end JsonText

/-! ## §3. Settling. -/

section Thread

variable {step : Nat → Node → Except Fault (Node × Nat)}

theorem threadItems_eq {items : List Node} (h : ∀ n ∈ items, ∀ left, step left n = .ok (n, left))
    (left : Nat) : threadItems step left items = .ok (items, left) := by
  induction items with
  | nil => rfl
  | cons first rest ih =>
    unfold threadItems
    rw [h first List.mem_cons_self left]
    show (threadItems step left rest >>= _) = _
    rw [ih fun n hn => h n (List.mem_cons_of_mem _ hn)]
    rfl

theorem threadEntries_eq {entries : List (Node × Node)}
    (hkeys : ∀ e ∈ entries, ∀ left, step left e.1 = .ok (e.1, left))
    (hvalues : ∀ e ∈ entries, ∀ left, step left e.2 = .ok (e.2, left)) (left : Nat) :
    threadEntries step left entries = .ok (entries, left) := by
  induction entries with
  | nil => rfl
  | cons first rest ih =>
    obtain ⟨k, v⟩ := first
    have hk : step left k = .ok (k, left) := hkeys _ List.mem_cons_self left
    have hv : step left v = .ok (v, left) := hvalues _ List.mem_cons_self left
    unfold threadEntries
    rw [hk]
    show (step left v >>= _) = _
    rw [hv]
    show (threadEntries step left rest >>= _) = _
    rw [ih (fun e he => hkeys e (List.mem_cons_of_mem _ he))
      fun e he => hvalues e (List.mem_cons_of_mem _ he)]
    rfl

theorem exists_of_threadItems {items : List Node} {left : Nat} {out : List Node × Nat}
    (h : threadItems step left items = .ok out) :
    ∀ n ∈ items, ∃ left out, step left n = .ok out := by
  induction items generalizing left out with
  | nil => exact fun n hn => absurd hn List.not_mem_nil
  | cons first rest ih =>
    obtain ⟨found, hfirst, h⟩ := bind_eq_ok h
    obtain ⟨more, hrest, -⟩ := bind_eq_ok h
    exact List.forall_mem_cons.mpr ⟨⟨left, found, hfirst⟩, ih hrest⟩

theorem exists_of_threadEntries {entries : List (Node × Node)} {left : Nat}
    {out : List (Node × Node) × Nat} (h : threadEntries step left entries = .ok out) :
    (∀ e ∈ entries, ∃ left out, step left e.1 = .ok out) ∧
      ∀ e ∈ entries, ∃ left out, step left e.2 = .ok out := by
  induction entries generalizing left out with
  | nil => exact ⟨fun n hn => absurd hn List.not_mem_nil, fun n hn => absurd hn List.not_mem_nil⟩
  | cons first rest ih =>
    obtain ⟨k, hk, h⟩ := bind_eq_ok h
    obtain ⟨v, hv, h⟩ := bind_eq_ok h
    obtain ⟨more, hrest, -⟩ := bind_eq_ok h
    obtain ⟨hkeys, hvalues⟩ := ih hrest
    exact ⟨List.forall_mem_cons.mpr ⟨⟨_, k, hk⟩, hkeys⟩,
      List.forall_mem_cons.mpr ⟨⟨_, v, hv⟩, hvalues⟩⟩

end Thread

namespace Node.Fits

/-- A plain node is expanded to itself where it fits. -/
theorem expand_eq {room : Nat} {n : Node} (h : n.Fits room) (o : Origin) (left : Nat) :
    o.expand room left n = .ok (n, left) := by
  induction h generalizing left with
  | @scalar room s h => cases room <;> rfl
  | @list room items h ih =>
    show (threadItems (o.expand room) left items >>= _) = _
    rw [threadItems_eq ih]
    rfl
  | @map room entries hkeys hvalues ihkeys ihvalues =>
    show (threadEntries (o.expand room) left entries >>= _) = _
    rw [threadEntries_eq ihkeys ihvalues]
    rfl

/-- A plain node that is expanded fits. -/
theorem of_expand {room' : Nat} {n : Node} (h : n.Fits room') {o : Origin} {room left : Nat}
    {out : Node × Nat} (hout : o.expand room left n = .ok out) : n.Fits room := by
  -- the number of aliases that are left differs from node to node, so it is generalized
  induction h generalizing room left out with
  | scalar h => exact .scalar h
  | @list _ items h ih =>
    cases room with
    | zero => cases hout
    | succ room =>
      have hout : (threadItems (o.expand room) left items >>= fun found =>
        .ok (.list false found.1, found.2)) = .ok out := hout
      obtain ⟨found, hitems, -⟩ := bind_eq_ok hout
      refine .list fun n hn => ?_
      obtain ⟨left, out, hn'⟩ := exists_of_threadItems hitems n hn
      exact ih n hn hn'
  | @map _ entries hkeys hvalues ihkeys ihvalues =>
    cases room with
    | zero => cases hout
    | succ room =>
      have hout : (threadEntries (o.expand room) left entries >>= fun found =>
        .ok (.map false found.1, found.2)) = .ok out := hout
      obtain ⟨found, hentries, -⟩ := bind_eq_ok hout
      obtain ⟨hk, hv⟩ := exists_of_threadEntries hentries
      refine .map (fun e he => ?_) fun e he => ?_
      · obtain ⟨left, out, he'⟩ := hk e he
        exact ihkeys e he he'
      · obtain ⟨left, out, he'⟩ := hv e he
        exact ihvalues e he he'

end Node.Fits

namespace Node

theorem settleItems_eq_mapM (items : List Node) : settleItems items = items.mapM settle := by
  induction items with
  | nil => rfl
  | cons n rest ih =>
    rw [List.mapM_cons, ← ih]
    rfl

/-- Settle a key and its value. -/
def settleEntry (e : Node × Node) : Except Fault (Node × Node) := do
  let k ← e.1.settle
  let v ← e.2.settle
  return (k, v)

theorem settleEntries_eq_mapM (entries : List (Node × Node)) :
    settleEntries entries = entries.mapM settleEntry := by
  induction entries with
  | nil => rfl
  | cons e rest ih =>
    rw [List.mapM_cons, ← ih]
    show (e.1.settle >>= fun k => e.2.settle >>= fun v => _) = _
    unfold settleEntry
    cases e.1.settle with
    | error fault => rfl
    | ok k => cases e.2.settle <;> rfl

/-- A plain node that is settled stays as it is. -/
theorem Fits.eq_of_settle {room : Nat} {n n' : Node} (h : n.Fits room) (hn : n.settle = .ok n') :
    n' = n := by
  induction h generalizing n' with
  | @scalar _ s h =>
    obtain ⟨p, hp, hn⟩ := bind_eq_ok hn
    cases s with
    | typed p' =>
      cases hp
      cases hn
      rfl
    | unreadable => cases hp
    | written _ _ _ => cases h
    | absent => cases h
  | @list _ items _ ih =>
    obtain ⟨out, hout, hn⟩ := bind_eq_ok hn
    cases hn
    rw [settleItems_eq_mapM] at hout
    have hsame : out = items.map id := eq_map_of_mapM hout fun n hn n' hn' => ih n hn hn'
    rw [hsame, List.map_id]
  | @map _ entries _ _ ihkeys ihvalues =>
    obtain ⟨out, hout, hn⟩ := bind_eq_ok hn
    cases hn
    rw [settleEntries_eq_mapM] at hout
    have hsame : out = entries.map id := by
      refine eq_map_of_mapM hout ?_
      intro e he e' he'
      obtain ⟨k, hk, he'⟩ := bind_eq_ok he'
      obtain ⟨v, hv, he'⟩ := bind_eq_ok he'
      cases he'
      rw [ihkeys e he hk, ihvalues e he hv]
      rfl
    rw [hsame, List.map_id]

end Node

/-- What is read at a place: a plain node, which fits if it has been settled. -/
structure Readable (p : Place) (n : Node) : Prop where
  plain : n.IsPlain
  fits : p.settled = true → n.Fits p.room

/-- **A PLAIN NODE THAT IS SETTLED STAYS AS IT IS**, and has been found to fit. -/
theorem Readable.of_settled {p p' : Place} {n n' : Node} (h : Readable p n)
    (hs : settled p n = .ok (p', n')) :
    n' = n ∧ p' = { p with settled := true } ∧ n.Fits p.room := by
  unfold settled at hs
  split at hs
  · rename_i hsettled
    cases hs
    refine ⟨rfl, ?_, h.fits hsettled⟩
    cases p
    cases hsettled
    rfl
  · -- expanding has entered every level of the node, so the node fits
    obtain ⟨found, hexpand, hs⟩ := bind_eq_ok hs
    obtain ⟨n'', hsettle, hs⟩ := bind_eq_ok hs
    cases hs
    obtain ⟨room, hplain⟩ := h.plain
    have hfits := hplain.of_expand hexpand
    rw [hfits.expand_eq] at hexpand
    cases hexpand
    exact ⟨hfits.eq_of_settle hsettle, rfl, hfits⟩

/-! ## §4. The tree of a value. -/

/-- Everything in the tree of a value has its type already. -/
theorem Node.settle_node (v : Json) : v.node.settle = .ok v.node := by
  induction v using Json.induction with
  | null => rfl
  | bool b => rfl
  | number n => rfl
  | text s => rfl
  | list items ih =>
    have hitems : settleItems (items.map Json.node) = .ok (items.map Json.node) := by
      rw [settleItems_eq_mapM, List.mapM_map]
      exact mapM_eq_ok ih
    rw [Json.node_list]
    show (settleItems (items.map Json.node) >>= _) = _
    rw [hitems]
    rfl
  | object entries ih =>
    have hentries : settleEntries (entries.map Json.entryNode)
        = .ok (entries.map Json.entryNode) := by
      rw [settleEntries_eq_mapM, List.mapM_map]
      refine mapM_eq_ok fun e he => ?_
      show (e.2.node.settle >>= _) = _
      rw [ih e he]
      rfl
    rw [Json.node_object]
    show (settleEntries (entries.map Json.entryNode) >>= _) = _
    rw [hentries]
    rfl

/-- **THE TREE OF A VALUE IS SETTLED WHEREVER IT FITS**, and stays as it is. -/
theorem settled_node {p : Place} {v : Json} (h : v.node.Fits p.room) :
    settled p v.node = .ok ({ p with settled := true }, v.node) := by
  unfold settled
  split
  · rename_i hsettled
    cases p
    cases hsettled
    rfl
  · rw [h.expand_eq]
    show (v.node.settle >>= _) = _
    rw [Node.settle_node v]
    rfl

/-- The whole numbers of a value that fits are in range. -/
theorem Node.inRange_of_fits {room : Nat} {v : Json} (h : v.node.Fits room) {i : Int}
    (hi : .whole i ∈ v.numbers) : Number.Value.inRange i = true := by
  induction v using Json.induction generalizing room with
  | null => cases hi
  | bool b => cases hi
  | text s => cases hi
  | number n =>
    cases List.mem_singleton.mp hi
    cases h with
    | scalar h => exact h
  | list items ih =>
    obtain ⟨inner, -, hitems⟩ := h.of_node_list
    rw [Json.numbers, Json.itemNumbers_eq] at hi
    obtain ⟨v, hv, hi⟩ := List.mem_flatMap.mp hi
    exact ih v hv (hitems v hv) hi
  | object entries ih =>
    obtain ⟨inner, -, hentries⟩ := h.of_node_object
    rw [Json.numbers, Json.entryNumbers_eq] at hi
    obtain ⟨e, he, hi⟩ := List.mem_flatMap.mp hi
    exact ih e he (hentries e he) hi

/-- **A VALUE THAT FITS IS READ OFF ITS COMPACT TEXT**, when its fractions are legible. -/
theorem JsonText.node?_compact_of_fits {room : Nat} {v : Json} (h : v.node.Fits room)
    (hfractions : ∀ x, .fraction x ∈ v.numbers → Legible (.fraction x)) :
    node? v.compact = some v.node := by
  refine node?_compact fun n hn => ?_
  cases n with
  | whole i => exact legible_whole (Node.inRange_of_fits h hn)
  | fraction x => exact hfractions x hn

end ApiMethods.Source
