/-
  ApiMethods.Table — maps that remember the order of their keys.

  An API document is written for people, and every list that is derived from one of its
  maps comes out in the order of the document.  A table is therefore the list of its
  entries.  Writing a key that is present replaces the value and keeps the place, so a
  table read from repeated keys has the FIRST place and the LAST value of each.
-/

namespace ApiMethods

/-- Entries in the order in which their keys were first written. -/
abbrev Table (κ α : Type) := List (κ × α)

namespace Table

variable {κ α β : Type}

/-! ## §1. Views -/

/-- The keys, in order. -/
def keys (t : Table κ α) : List κ := t.map (·.1)

/-- The values, in the order of their keys. -/
def values (t : Table κ α) : List α := t.map (·.2)

/-- No key occurs twice. -/
def Distinct (t : Table κ α) : Prop := (keys t).Nodup

/-! ## §2. Operations -/

/-- The value under a key. -/
def get? [DecidableEq κ] : Table κ α → κ → Option α
  | [], _ => none
  | (k', v) :: rest, k => if k' = k then some v else get? rest k

/-- Whether a key is present. -/
def has [DecidableEq κ] (t : Table κ α) (k : κ) : Bool := (get? t k).isSome

/-- Write a value: in place when the key is present, else at the end. -/
def insert [DecidableEq κ] : Table κ α → κ → α → Table κ α
  | [], k, v => [(k, v)]
  | (k', v') :: rest, k, v => if k' = k then (k, v) :: rest else (k', v') :: insert rest k v

/-- The table that results from writing entries one after the other. -/
def ofEntries [DecidableEq κ] (entries : List (κ × α)) : Table κ α :=
  entries.foldl (fun t e => insert t e.1 e.2) []

/-- Change every value and keep the keys. -/
def mapValues (f : α → β) (t : Table κ α) : Table κ β := t.map fun e => (e.1, f e.2)

/-! ## §3. What the operations do to the views -/

theorem keys_mapValues (f : α → β) (t : Table κ α) : keys (mapValues f t) = keys t := by
  simp [keys, mapValues, Function.comp_def]

theorem mapValues_mapValues {γ : Type} (g : β → γ) (f : α → β) (t : Table κ α) :
    mapValues g (mapValues f t) = mapValues (g ∘ f) t := List.map_map

theorem get?_mapValues [DecidableEq κ] (f : α → β) (t : Table κ α) (k : κ) :
    get? (mapValues f t) k = (get? t k).map f := by
  induction t with
  | nil => rfl
  | cons e rest ih =>
    obtain ⟨k', v⟩ := e
    by_cases h : k' = k
    · simp [mapValues, get?, h]
    · simpa [mapValues, get?, h] using ih

/-- Two changes come to the same when they change every value alike. -/
theorem mapValues_eq_iff {f g : α → β} {t : Table κ α} :
    mapValues f t = mapValues g t ↔ ∀ a ∈ values t, f a = g a := by
  unfold mapValues values
  rw [List.map_inj_left]
  constructor
  · intro h a ha
    obtain ⟨e, he, rfl⟩ := List.mem_map.mp ha
    exact congrArg Prod.snd (h e he)
  · intro h e he
    exact Prod.ext rfl (h e.2 (List.mem_map_of_mem he))

/-- What is found under a key is an entry. -/
theorem mem_of_get? [DecidableEq κ] {t : Table κ α} {k : κ} {a : α} (h : get? t k = some a) :
    (k, a) ∈ t := by
  induction t with
  | nil => cases h
  | cons e rest ih =>
    obtain ⟨k', v⟩ := e
    simp only [get?] at h
    split at h
    · rename_i hk
      cases h
      rw [hk]
      exact List.mem_cons_self
    · exact List.mem_cons_of_mem _ (ih h)

theorem mem_keys_of_get? [DecidableEq κ] {t : Table κ α} {k : κ} {a : α} (h : get? t k = some a) :
    k ∈ keys t :=
  List.mem_map_of_mem (mem_of_get? h)

/-- Under every key of a table there is a value. -/
theorem exists_get?_of_mem_keys [DecidableEq κ] {t : Table κ α} {k : κ} (h : k ∈ keys t) :
    ∃ a, get? t k = some a := by
  induction t with
  | nil => cases h
  | cons e rest ih =>
    obtain ⟨k', v⟩ := e
    by_cases hk : k' = k
    · exact ⟨v, by simp [get?, hk]⟩
    · have hrest : k ∈ keys rest := (List.mem_cons.mp h).resolve_left (Ne.symm hk)
      obtain ⟨a, ha⟩ := ih hrest
      exact ⟨a, by simp [get?, hk, ha]⟩

/-- The value under a key is that of its first entry. -/
theorem get?_eq_head? [DecidableEq κ] (t : Table κ α) (k : κ) :
    get? t k = ((t.filter fun e => e.1 = k).head?).map (·.2) := by
  induction t with
  | nil => rfl
  | cons e rest ih =>
    obtain ⟨k', v⟩ := e
    by_cases h : k' = k
    · simp [get?, h]
    · simpa [get?, h] using ih

/-- Where keys are distinct, an entry is the only one with its key. -/
theorem filter_key_eq [DecidableEq κ] {t : Table κ α} (h : Distinct t) {e : κ × α} (he : e ∈ t) :
    (t.filter fun e' => e'.1 = e.1) = [e] := by
  induction t with
  | nil => cases he
  | cons first rest ih =>
    simp only [Distinct, keys, List.map_cons, List.nodup_cons] at h
    rcases List.mem_cons.mp he with rfl | hrest
    · have hnone : rest.filter (fun e' => e'.1 = e.1) = [] := by
        refine List.filter_eq_nil_iff.mpr fun e' he' heq => h.1 ?_
        rw [← of_decide_eq_true heq]
        exact List.mem_map_of_mem he'
      rw [List.filter_cons_of_pos (by simp), hnone]
    · have hne : first.1 ≠ e.1 := fun heq => h.1 (heq ▸ List.mem_map_of_mem hrest)
      rw [List.filter_cons_of_neg (by simpa using hne)]
      exact ih h.2 hrest

/-- Where keys are distinct, an entry is found under its key. -/
theorem get?_of_mem [DecidableEq κ] {t : Table κ α} (h : Distinct t) {e : κ × α} (he : e ∈ t) :
    get? t e.1 = some e.2 := by
  rw [get?_eq_head?, filter_key_eq h he]
  rfl

theorem get?_insert [DecidableEq κ] (t : Table κ α) (k : κ) (v : α) (j : κ) :
    get? (insert t k v) j = if k = j then some v else get? t j := by
  induction t with
  | nil => simp [insert, get?]
  | cons e rest ih =>
    obtain ⟨k', v'⟩ := e
    by_cases h : k' = k
    · subst h; by_cases hj : k' = j <;> simp [insert, get?, hj]
    · by_cases hj : k' = j
      · subst hj; simp [insert, get?, h, Ne.symm h]
      · simp [insert, get?, h, hj, ih]

theorem mem_keys_insert [DecidableEq κ] (t : Table κ α) (k : κ) (v : α) (j : κ) :
    j ∈ keys (insert t k v) ↔ j = k ∨ j ∈ keys t := by
  induction t with
  | nil => simp [insert, keys]
  | cons e rest ih =>
    obtain ⟨k', v'⟩ := e
    by_cases h : k' = k
    · subst h; simp [insert, keys]
    · simp only [keys] at ih
      simp [insert, h, keys, ih]
      grind

theorem mem_keys_foldl_insert [DecidableEq κ] (entries : List (κ × α)) (k : κ) :
    ∀ t : Table κ α, k ∈ keys (entries.foldl (fun t e => Table.insert t e.1 e.2) t) ↔
      k ∈ keys t ∨ k ∈ entries.map (·.1) := by
  induction entries with
  | nil => simp
  | cons e rest ih =>
    intro t
    rw [List.foldl_cons, ih, mem_keys_insert, List.map_cons, List.mem_cons]
    exact ⟨by rintro ((h | h) | h) <;> simp [h], by rintro (h | h | h) <;> simp [h]⟩

/-- The keys of a table are those that were written. -/
theorem mem_keys_ofEntries [DecidableEq κ] {entries : List (κ × α)} {k : κ} :
    k ∈ keys (ofEntries entries) ↔ k ∈ entries.map (·.1) :=
  (mem_keys_foldl_insert entries k []).trans (by simp [keys])

theorem mem_insert [DecidableEq κ] {t : Table κ α} {k : κ} {a : α} {e : κ × α}
    (h : e ∈ insert t k a) : e = (k, a) ∨ e ∈ t := by
  induction t with
  | nil => exact .inl (List.mem_singleton.mp h)
  | cons first rest ih =>
    unfold insert at h
    split at h
    · rcases List.mem_cons.mp h with h | h
      · exact .inl h
      · exact .inr (List.mem_cons_of_mem _ h)
    · rcases List.mem_cons.mp h with rfl | h
      · exact .inr List.mem_cons_self
      · exact (ih h).imp_right (List.mem_cons_of_mem _)

/-- The entries of a table are among those that were written. -/
theorem mem_ofEntries [DecidableEq κ] {entries : List (κ × α)} {e : κ × α}
    (h : e ∈ ofEntries entries) : e ∈ entries := by
  suffices hfold : ∀ t : Table κ α, e ∈ entries.foldl (fun t e => Table.insert t e.1 e.2) t →
      e ∈ t ∨ e ∈ entries from (hfold [] h).resolve_left List.not_mem_nil
  clear h
  induction entries with
  | nil => exact fun t h => .inl h
  | cons first rest ih =>
    intro t h
    rcases ih _ h with h | h
    · rcases mem_insert h with rfl | h
      · exact .inr List.mem_cons_self
      · exact .inl h
    · exact .inr (List.mem_cons_of_mem _ h)

theorem distinct_nil : Distinct ([] : Table κ α) := List.nodup_nil

/-- Writing keeps the keys distinct. -/
theorem Distinct.insert [DecidableEq κ] {t : Table κ α} (h : Distinct t) (k : κ) (v : α) :
    Distinct (insert t k v) := by
  induction t with
  | nil => simp [Table.insert, Distinct, keys]
  | cons e rest ih =>
    obtain ⟨k', v'⟩ := e
    simp only [Distinct, keys, List.map_cons, List.nodup_cons] at h
    by_cases hk : k' = k
    · subst hk; simpa [Table.insert, Distinct, keys] using h
    · have hr : k' ∉ keys (Table.insert rest k v) := by
        rw [mem_keys_insert]; rintro (e | e)
        · exact hk e
        · exact h.1 e
      simp only [Table.insert, if_neg hk, Distinct, keys, List.map_cons, List.nodup_cons]
      exact ⟨hr, ih h.2⟩

theorem distinct_foldl_insert [DecidableEq κ] (entries : List (κ × α)) :
    ∀ t : Table κ α, Distinct t →
      Distinct (entries.foldl (fun t e => Table.insert t e.1 e.2) t) := by
  induction entries with
  | nil => exact fun _ h => h
  | cons e rest ih => exact fun t h => ih _ (h.insert e.1 e.2)

/-- Whatever was written, the keys of a table are distinct. -/
theorem distinct_ofEntries [DecidableEq κ] (entries : List (κ × α)) :
    Distinct (ofEntries entries) :=
  distinct_foldl_insert entries [] distinct_nil

end Table

end ApiMethods
