/-
  ApiMethods.Proofs.WrittenRecords
  ────────────────────────────────
  **THE FIELDS OF A WRITTEN RECORD ARE FOUND AGAIN.**

  A record is written as the object of its fields in their order, where a field that is left out has
  no entry.  The CELLS of a record say for each of its names what is written there, if anything:

      names   "schema"          "encoding"         "example"
      cells   some (w schema)   none               some sample
      object  {"schema": …, "example": …}

  No name is written twice, so looking a name up among the entries finds its cell again
  (`map_get?_written`), and the fields of the object are its cells (`Fields.of_written`).
-/
import ApiMethods.Proofs.ReadBack

namespace ApiMethods

open ApiMethods.Source (Reader Fields Node Place Readable Regained Fault OrRef)

/-! ## §1. Cells. -/

namespace Json

/-- The entries that a row of cells has under its names. -/
def written : List String → List (Option Json) → List (String × Json)
  | name :: names, cell :: cells => optional name id cell ++ written names cells
  | _, _ => []

/-- What is written of a list that is left out when it is empty. -/
def unlessNil {α : Type} (f : List α → Json) : List α → Option Json
  | [] => none
  | items => some (f items)

/-! Every way to write a field is a way to fill a cell, and what is made of the parts of a value
first may as well be made of them while they are written. -/

@[simp] theorem written_nil : written [] [] = [] := rfl

@[simp] theorem written_cons (name : String) (cell : Option Json) (names : List String)
    (cells : List (Option Json)) :
    written (name :: names) (cell :: cells) = optional name id cell ++ written names cells := rfl

@[simp] theorem optional_some (name : String) (v : Json) :
    optional name id (some v) = field name v := rfl

@[simp] theorem optional_map {α β : Type} (name : String) (f : β → Json) (g : α → β)
    (o : Option α) : optional name f (o.map g) = optional name (fun a => f (g a)) o := by
  cases o <;> rfl

@[simp] theorem optional_unlessNil {α : Type} (name : String) (f : List α → Json)
    (items : List α) : optional name id (unlessNil f items) = unlessEmpty name f items := by
  cases items <;> rfl

@[simp] theorem unlessEmpty_map {α β : Type} (name : String) (f : List β → Json) (g : α → β)
    (items : List α) :
    unlessEmpty name f (items.map g) = unlessEmpty name (fun l => f (l.map g)) items := by
  cases items <;> rfl

/-- A name is written once, in its place. -/
theorem keys_written_sublist (names : List String) (cells : List (Option Json)) :
    (Table.keys (written names cells)).Sublist names := by
  induction names generalizing cells with
  | nil => exact List.nil_sublist _
  | cons name names ih =>
    cases cells with
    | nil => exact List.nil_sublist _
    | cons cell cells =>
      cases cell with
      | none => exact (ih cells).cons name
      | some v => exact (ih cells).cons_cons name

/-- Under no other name anything is written. -/
theorem get?_written_eq_none {names : List String} {k : String} (h : k ∉ names)
    (cells : List (Option Json)) : (Json.object (written names cells)).get? k = none := by
  refine List.lookup_eq_none_iff.mpr fun e he => ?_
  have hmem : e.1 ∈ names := (keys_written_sublist names cells).subset (List.mem_map_of_mem he)
  have hne : k ≠ e.1 := fun heq => h (heq ▸ hmem)
  simpa using hne

/-- What is written under a name is the cell of the name. -/
theorem map_get?_written {names : List String} (h : names.Nodup) {cells : List (Option Json)}
    (hlength : cells.length = names.length) :
    names.map (Table.get? (written names cells)) = cells := by
  induction names generalizing cells with
  | nil =>
    cases cells with
    | nil => rfl
    | cons cell cells => cases hlength
  | cons name names ih =>
    cases cells with
    | nil => cases hlength
    | cons cell cells =>
      obtain ⟨hfresh, hrest⟩ := List.nodup_cons.mp h
      -- the first entry answers for its own name and for no later one
      have hlater : ∀ other ∈ names, Table.get? (written (name :: names) (cell :: cells)) other
          = Table.get? (written names cells) other := by
        intro other hother
        have hne : name ≠ other := fun heq => hfresh (heq ▸ hother)
        cases cell with
        | none => rfl
        | some v =>
          show Table.get? ((name, v) :: written names cells) other = _
          rw [Table.get?, if_neg hne]
      have hhere : Table.get? (written (name :: names) (cell :: cells)) name = cell := by
        cases cell with
        | none =>
          show Table.get? (written names cells) name = none
          refine Option.eq_none_iff_forall_ne_some.mpr fun v hv => hfresh ?_
          exact (keys_written_sublist names cells).subset (Table.mem_keys_of_get? hv)
        | some v =>
          show Table.get? ((name, v) :: written names cells) name = _
          rw [Table.get?, if_pos rfl]
      rw [List.map_cons, hhere, List.map_congr_left hlater, ih hrest (by simpa using hlength)]

/-- What is written under a name fills one of the cells. -/
theorem mem_cells_of_mem_written {names : List String} {cells : List (Option Json)}
    {e : String × Json} (h : e ∈ written names cells) : some e.2 ∈ cells := by
  induction names generalizing cells with
  | nil => cases h
  | cons name names ih =>
    cases cells with
    | nil => cases h
    | cons cell cells =>
      rcases List.mem_append.mp h with h | h
      · cases cell with
        | none => cases h
        | some v =>
          cases List.mem_singleton.mp h
          exact List.mem_cons_self
      · exact List.mem_cons_of_mem _ (ih h)

/-- What fills a cell is written under its name. -/
theorem exists_mem_written {names : List String} {cells : List (Option Json)}
    (hlength : cells.length = names.length) {v : Json} (h : some v ∈ cells) :
    ∃ name, (name, v) ∈ written names cells := by
  induction names generalizing cells with
  | nil =>
    rw [List.eq_nil_of_length_eq_zero hlength] at h
    cases h
  | cons name names ih =>
    cases cells with
    | nil => cases h
    | cons cell cells =>
      rcases List.mem_cons.mp h with rfl | h
      · exact ⟨name, List.mem_append_left _ (List.mem_singleton.mpr rfl)⟩
      · obtain ⟨other, hother⟩ := ih (by simpa using hlength) h
        exact ⟨other, List.mem_append_right _ hother⟩

end Json

namespace Source.Fields

/-! ## §2. Fields found again. -/

/-- An entry of an object as a record looks at it: under the name of a field. -/
def named (e : String × Json) : Scalar.FieldKey × Node := (.name e.1, e.2.node)

theorem cell_named {entries : List (String × Json)} (h : Table.Distinct entries) (name : String)
    (place : Nat) :
    cell (entries.map named) name place = .ok ((Table.get? entries name).map Json.node) := by
  have hfilter : (entries.map named).filter (fun e => keyed name place e.1)
      = (entries.filter fun e => e.1 = name).map named := by
    rw [List.filter_map]
    rfl
  unfold cell
  rw [hfilter, Table.get?_eq_head?]
  by_cases hmem : ∃ e ∈ entries, e.1 = name
  · obtain ⟨e, he, rfl⟩ := hmem
    rw [Table.filter_key_eq h he]
    rfl
  · have hnone : entries.filter (fun e => e.1 = name) = [] := by
      refine List.filter_eq_nil_iff.mpr fun e he heq => hmem ⟨e, he, ?_⟩
      simpa using heq
    rw [hnone]
    rfl

/-- The key of an entry, beside its value. -/
def keyOf (p : Place) (e : Node × Node) : Except Fault (Scalar.FieldKey × Node) := do
  let key ← Reader.scalar Scalar.fieldKey p e.1
  return (key, e.2)

/-- The fields of a record are looked up among the entries of its object. -/
theorem of_object (names : List String) (p : Place) (entries : List (String × Json)) :
    Fields.of names p (Json.object entries).node
      = (p.inside >>= fun p =>
          names.zipIdx.mapM (fun x => cell (entries.map named) x.1 x.2) >>= fun cells =>
            .ok ⟨p, cells, false⟩) := by
  have hkeys : ∀ p : Place, (entries.map Json.entryNode).mapM (keyOf p)
      = .ok (entries.map named) := by
    intro p
    rw [List.mapM_map]
    exact mapM_eq_ok fun e _ => rfl
  show Fields.ofEntries p names (Json.entryNodes entries) = _
  rw [Json.entryNodes_eq]
  show (p.inside >>= fun p => (entries.map Json.entryNode).mapM (keyOf p) >>= fun keyed =>
    names.zipIdx.mapM (fun x => cell keyed x.1 x.2) >>= fun cells =>
      .ok (Fields.mk p cells false)) = _
  simp only [hkeys]
  rfl

/-- **THE FIELDS OF A WRITTEN RECORD ARE ITS CELLS.** -/
theorem of_written {names : List String} (h : names.Nodup) {cells : List (Option Json)}
    (hlength : cells.length = names.length) {p : Place} {room : Nat} (hroom : p.room = room + 1) :
    Fields.of names p (Json.object (Json.written names cells)).node
      = .ok ⟨{ p with room := room }, cells.map (Option.map Json.node), false⟩ := by
  have hdistinct : Table.Distinct (Json.written names cells) :=
    (Json.keys_written_sublist names cells).nodup h
  have hcells : names.zipIdx.mapM (fun x => cell ((Json.written names cells).map named) x.1 x.2)
      = .ok (cells.map (Option.map Json.node)) := by
    have hfst : (names.zipIdx.map Prod.fst).map (Table.get? (Json.written names cells)) = cells := by
      rw [List.zipIdx_map_fst]
      exact Json.map_get?_written h hlength
    rw [mapM_eq_ok fun x _ => cell_named hdistinct x.1 x.2]
    conv_rhs => rw [← hfst]
    rw [List.map_map, List.map_map]
    rfl
  rw [of_object, Place.inside_of_room hroom, hcells]
  rfl

end Source.Fields

end ApiMethods
