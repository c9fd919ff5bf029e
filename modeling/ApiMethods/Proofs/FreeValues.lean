/-
  ApiMethods.Proofs.FreeValues
  ────────────────────────────
  **A FREE VALUE IS READ BACK AS IT WAS READ.**

  A document carries values along whose shape it leaves open: examples, defaults, the choices of an
  enumeration.  Such a value comes with the keys of its objects sorted and without repetitions, so
  that sorting them once more changes nothing (`sorted_sorted`); everything else of it is kept as it
  stands.
-/
import Mathlib.Data.List.Basic
import ApiMethods.Proofs.PlainNodes

namespace ApiMethods

/-! ## §1. Sorted objects. -/

namespace Json

/-- The keys of the entries increase. -/
def Increasing (entries : List (String × Json)) : Prop := entries.Pairwise fun e e' => e.1 < e'.1

theorem mem_insertSorted {k : String} {v : Json} {entries : List (String × Json)}
    {e : String × Json} (h : e ∈ insertSorted k v entries) : e = (k, v) ∨ e ∈ entries := by
  induction entries with
  | nil => exact .inl (List.mem_singleton.mp h)
  | cons first rest ih =>
    unfold insertSorted at h
    split at h
    · exact List.mem_cons.mp h
    · split at h
      · rcases List.mem_cons.mp h with h | h
        · exact .inl h
        · exact .inr (List.mem_cons_of_mem _ h)
      · rcases List.mem_cons.mp h with rfl | h
        · exact .inr List.mem_cons_self
        · exact (ih h).imp_right (List.mem_cons_of_mem _)

/-- Inserting keeps the keys increasing. -/
theorem Increasing.insertSorted {entries : List (String × Json)} (h : Increasing entries)
    (k : String) (v : Json) : Increasing (insertSorted k v entries) := by
  induction entries with
  | nil => exact List.pairwise_singleton _ _
  | cons first rest ih =>
    obtain ⟨hfirst, hrest⟩ := List.pairwise_cons.mp h
    unfold Json.insertSorted
    split
    · rename_i hlt
      refine List.pairwise_cons.mpr ⟨?_, h⟩
      intro e he
      rcases List.mem_cons.mp he with rfl | he
      · exact hlt
      · exact String.lt_trans hlt (hfirst e he)
    · rename_i hnlt
      split
      · rename_i heq
        subst heq
        exact List.pairwise_cons.mpr ⟨hfirst, hrest⟩
      · rename_i hne
        have hlt : first.1 < k := Std.lt_of_le_of_ne (String.not_lt.mp hnlt) (Ne.symm hne)
        refine List.pairwise_cons.mpr ⟨?_, ih hrest⟩
        intro e he
        rcases mem_insertSorted he with rfl | he
        · exact hlt
        · exact hfirst e he

/-- A key that is greater than all others comes last. -/
theorem insertSorted_eq_append {k : String} {v : Json} {entries : List (String × Json)}
    (h : ∀ e ∈ entries, e.1 < k) : insertSorted k v entries = entries ++ [(k, v)] := by
  induction entries with
  | nil => rfl
  | cons first rest ih =>
    have hfirst : first.1 < k := h first List.mem_cons_self
    have hne : k ≠ first.1 := fun heq => String.lt_irrefl k (heq ▸ hfirst)
    unfold insertSorted
    rw [if_neg (String.lt_asymm hfirst), if_neg hne,
      ih fun e he => h e (List.mem_cons_of_mem _ he)]
    rfl

theorem mem_sorted {entries : List (String × Json)} {e : String × Json} (h : e ∈ sorted entries) :
    e ∈ entries := by
  suffices hfold : ∀ acc : List (String × Json),
      e ∈ entries.foldl (fun acc e => insertSorted e.1 e.2 acc) acc → e ∈ acc ∨ e ∈ entries from
    (hfold [] h).resolve_left List.not_mem_nil
  clear h
  induction entries with
  | nil => exact fun acc h => .inl h
  | cons first rest ih =>
    intro acc h
    rcases ih _ h with h | h
    · rcases mem_insertSorted h with rfl | h
      · exact .inr List.mem_cons_self
      · exact .inl h
    · exact .inr (List.mem_cons_of_mem _ h)

theorem increasing_sorted (entries : List (String × Json)) : Increasing (sorted entries) := by
  suffices hfold : ∀ acc : List (String × Json), Increasing acc →
      Increasing (entries.foldl (fun acc e => insertSorted e.1 e.2 acc) acc) from
    hfold [] List.Pairwise.nil
  induction entries with
  | nil => exact fun acc h => h
  | cons first rest ih => exact fun acc h => ih _ (h.insertSorted first.1 first.2)

/-- What is sorted stays as it is. -/
theorem Increasing.sorted_eq {entries : List (String × Json)} (h : Increasing entries) :
    sorted entries = entries := by
  suffices hfold : ∀ acc : List (String × Json), Increasing (acc ++ entries) →
      entries.foldl (fun acc e => Json.insertSorted e.1 e.2 acc) acc = acc ++ entries from
    hfold [] h
  clear h
  induction entries with
  | nil => exact fun acc _ => (List.append_nil acc).symm
  | cons first rest ih =>
    intro acc h
    have hlast : ∀ e ∈ acc, e.1 < first.1 := fun e he =>
      (List.pairwise_append.mp h).2.2 e he first List.mem_cons_self
    rw [List.foldl_cons, insertSorted_eq_append hlast, ih _ (by simpa using h)]
    simp

/-- **SORTING TWICE IS SORTING ONCE.** -/
theorem sorted_sorted (entries : List (String × Json)) : sorted (sorted entries) = sorted entries :=
  (increasing_sorted entries).sorted_eq

end Json

namespace Source.Node

/-! ## §2. Free values. -/

theorem toJsonItems_eq_mapM (items : List Node) : toJsonItems items = items.mapM toJson := by
  induction items with
  | nil => rfl
  | cons n rest ih =>
    rw [List.mapM_cons, ← ih]
    rfl

/-- What an object takes as a key: a text. -/
def keyText : Node → Except Fault String
  | .scalar s => s.text
  | _ => .error .shape

/-- The entry of an object for a key and its value. -/
def toJsonEntry (e : Node × Node) : Except Fault (String × Json) := do
  let k ← keyText e.1
  let v ← e.2.toJson
  return (k, v)

theorem toJsonEntries_eq_mapM (entries : List (Node × Node)) :
    toJsonEntries entries = entries.mapM toJsonEntry := by
  induction entries with
  | nil => rfl
  | cons e rest ih =>
    obtain ⟨k, v⟩ := e
    rw [List.mapM_cons, ← ih]
    unfold toJsonEntry
    cases k with
    | scalar s =>
      show (s.text >>= fun key => v.toJson >>= fun v => _) = _
      unfold keyText
      dsimp only
      cases s.text with
      | error fault => rfl
      | ok key => cases v.toJson <;> rfl
    | _ => rfl

/-- The JSON value of a plain scalar has the tree of the scalar. -/
theorem node_of_prim {s : Scalar} (h : s.IsPlain) {p : Prim} (hp : s.prim = .ok p) :
    (jsonOfPrim p).node = .scalar s := by
  cases s with
  | typed p' =>
    cases hp
    cases p with
    | notFinite => cases h
    | _ => rfl
  | unreadable => cases hp
  | written _ _ _ => cases h
  | absent => cases h

/-- **Step by step**: what is read off a plain node fits where the node did, and is read back off
    its own tree. -/
theorem Fits.toJson_node {room : Nat} {n : Node} (h : n.Fits room) :
    ∀ v, n.toJson = .ok v → v.node.Fits room ∧ v.node.toJson = .ok v := by
  induction h with
  | @scalar _ s h =>
    intro v hv
    obtain ⟨p, hp, hv'⟩ := bind_eq_ok hv
    cases hv'
    rw [node_of_prim h hp]
    exact ⟨.scalar h, hv⟩
  | @list room items _ ih =>
    intro v hv
    obtain ⟨vs, hvs, hv⟩ := bind_eq_ok hv
    cases hv
    rw [toJsonItems_eq_mapM] at hvs
    have hback : ∀ v ∈ vs, v.node.Fits room ∧ v.node.toJson = .ok v := by
      intro v hv
      obtain ⟨n, hn, hread⟩ := exists_of_mem_mapM hvs hv
      exact ih n hn v hread
    refine ⟨fits_list fun v hv => (hback v hv).1, ?_⟩
    have hitems : (vs.map Json.node).mapM toJson = .ok (vs.map id) := by
      rw [List.mapM_map]
      exact mapM_eq_ok fun v hv => (hback v hv).2
    rw [Json.node_list]
    show (toJsonItems (vs.map Json.node) >>= _) = _
    rw [toJsonItems_eq_mapM, hitems, List.map_id]
    rfl
  | @map room entries _ _ _ ih =>
    intro v hv
    obtain ⟨es, hes, hv⟩ := bind_eq_ok hv
    cases hv
    rw [toJsonEntries_eq_mapM] at hes
    -- sorting drops entries that are written over, but makes none
    have hback : ∀ e ∈ Json.sorted es, e.2.node.Fits room ∧ e.2.node.toJson = .ok e.2 := by
      intro e he
      obtain ⟨e', he', hread⟩ := exists_of_mem_mapM hes (Json.mem_sorted he)
      obtain ⟨k, -, hread⟩ := bind_eq_ok hread
      obtain ⟨v, hv, hread⟩ := bind_eq_ok hread
      cases hread
      exact ih e' he' v hv
    refine ⟨fits_object fun e he => (hback e he).1, ?_⟩
    have hentries : ((Json.sorted es).map Json.entryNode).mapM toJsonEntry
        = .ok ((Json.sorted es).map id) := by
      rw [List.mapM_map]
      refine mapM_eq_ok ?_
      intro e he
      show (e.2.node.toJson >>= _) = _
      rw [(hback e he).2]
      rfl
    rw [Json.node_object]
    show (toJsonEntries ((Json.sorted es).map Json.entryNode) >>= _) = _
    rw [toJsonEntries_eq_mapM, hentries, List.map_id]
    show Except.ok (Json.object (Json.sorted (Json.sorted es))) = _
    rw [Json.sorted_sorted]

/-- Only `null` is read as `null`. -/
theorem eq_null_of_toJson {n : Node} (h : n.IsPlain) (hn : n.toJson = .ok .null) :
    n = .typed .null := by
  obtain ⟨room, h⟩ := h
  cases h with
  | @scalar _ s h =>
    obtain ⟨p, hp, hn⟩ := bind_eq_ok hn
    have hnode := node_of_prim h hp
    rw [Except.ok.inj hn] at hnode
    exact hnode.symm
  | list h =>
    obtain ⟨vs, -, hn⟩ := bind_eq_ok hn
    cases hn
  | map h _ =>
    obtain ⟨es, -, hn⟩ := bind_eq_ok hn
    cases hn

end Source.Node

end ApiMethods
