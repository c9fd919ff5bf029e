/-
  ApiMethods.Proofs.JsonReading
  ─────────────────────────────
  **THE COMPACT TEXT OF A VALUE IS READ AS THE TREE OF THE VALUE.**

  Every token is read off the front of a text, whatever follows it: a string up to its closing
  quote (`string?_quote`), a number up to a comma or a closing bracket (`value?_number`), and a list
  or an object up to its own bracket.

  A reader of values calls itself through the readers of items and entries, each call with one unit
  of fuel less.  `ReadsBack fuel` says what all three read back with so much fuel; one step for each
  of them carries it from one unit to the next, and the length of the text is fuel enough
  (`node?_compact`).
-/
import ApiMethods.Proofs.NumberReading

namespace ApiMethods

open ApiMethods.Source (Node)

/-! ## §1. The tree of a value. -/

namespace Json

mutual

/-- The tree of a value. -/
def node : Json → Node
  | .null => .typed .null
  | .bool b => .typed (.bool b)
  | .number n => .typed (.number n)
  | .text s => .text s
  | .list items => .list false (itemNodes items)
  | .object entries => .map false (entryNodes entries)

/-- The trees of the items. -/
def itemNodes : List Json → List Node
  | [] => []
  | v :: rest => node v :: itemNodes rest

/-- The trees of keys and values. -/
def entryNodes : List (String × Json) → List (Node × Node)
  | [] => []
  | (k, v) :: rest => (.text k, node v) :: entryNodes rest

end

/-- Induction on a value by what it holds. -/
@[elab_as_elim]
theorem induction {P : Json → Prop} (null : P .null) (bool : ∀ b, P (.bool b))
    (number : ∀ n, P (.number n)) (text : ∀ s, P (.text s))
    (list : ∀ items, (∀ v ∈ items, P v) → P (.list items))
    (object : ∀ entries, (∀ e ∈ entries, P e.2) → P (.object entries)) (v : Json) : P v :=
  @Json.rec P (fun items => ∀ v ∈ items, P v) (fun entries => ∀ e ∈ entries, P e.2)
    (fun e => P e.2) null bool number text list object
    (fun _ hv => absurd hv List.not_mem_nil) (fun _ _ hv hvs => List.forall_mem_cons.mpr ⟨hv, hvs⟩)
    (fun _ he => absurd he List.not_mem_nil) (fun _ _ he hes => List.forall_mem_cons.mpr ⟨he, hes⟩)
    (fun _ _ hv => hv) v

theorem itemNodes_eq (items : List Json) : itemNodes items = items.map node := by
  induction items with
  | nil => rfl
  | cons v rest ih => rw [itemNodes, ih, List.map_cons]

/-- The trees of a key and its value. -/
def entryNode (e : String × Json) : Node × Node := (.text e.1, e.2.node)

theorem entryNodes_eq (entries : List (String × Json)) :
    entryNodes entries = entries.map entryNode := by
  induction entries with
  | nil => rfl
  | cons e rest ih =>
    rw [entryNodes, ih, List.map_cons]
    rfl

theorem node_list (items : List Json) : (list items).node = .list false (items.map node) :=
  congrArg (Node.list false) (itemNodes_eq items)

theorem node_object (entries : List (String × Json)) :
    (object entries).node = .map false (entries.map entryNode) :=
  congrArg (Node.map false) (entryNodes_eq entries)

mutual

/-- The numbers in a value. -/
def numbers : Json → List Number.Value
  | .number n => [n]
  | .list items => itemNumbers items
  | .object entries => entryNumbers entries
  | _ => []

/-- The numbers in the items. -/
def itemNumbers : List Json → List Number.Value
  | [] => []
  | v :: rest => numbers v ++ itemNumbers rest

/-- The numbers in the values. -/
def entryNumbers : List (String × Json) → List Number.Value
  | [] => []
  | (_, v) :: rest => numbers v ++ entryNumbers rest

end

theorem itemNumbers_eq (items : List Json) : itemNumbers items = items.flatMap numbers := by
  induction items with
  | nil => rfl
  | cons v rest ih => rw [itemNumbers, ih, List.flatMap_cons]

theorem entryNumbers_eq (entries : List (String × Json)) :
    entryNumbers entries = entries.flatMap fun e => e.2.numbers := by
  induction entries with
  | nil => rfl
  | cons e rest ih => rw [entryNumbers, ih, List.flatMap_cons]

end Json

/-! ## §2. Strings. -/

namespace Source.JsonText

open ApiMethods.Json (escape hexDigit quote)

theorem hex4?_hexDigit :
    ∀ n < 0x20, hex4? '0' '0' (hexDigit (n / 16)) (hexDigit (n % 16)) = some n := by
  decide

/-- **Step**: an escaped character is read as the character. -/
theorem stringBody_escape (c : Char) (read : Read) (h : read.high = none) (rest : List Char) :
    stringBody read (escape c ++ rest) = stringBody (read.push c) rest := by
  unfold escape
  split_ifs with hquote hslash hb hf hn hr ht hcontrol
  · subst hquote
    rfl
  · subst hslash
    rfl
  · subst hb
    rfl
  · subst hf
    rfl
  · subst hn
    rfl
  · subst hr
    rfl
  · subst ht
    rfl
  · show stringBody read ('\\' :: 'u' :: '0' :: '0' :: hexDigit (c.toNat / 16) ::
      hexDigit (c.toNat % 16) :: rest) = _
    have hunit : read.unit c.toNat = read.push c := by
      unfold Read.unit Read.push
      rw [h]
      have hhigh : isHighSurrogate c.toNat = false := by
        unfold isHighSurrogate
        simp only [Bool.and_eq_false_iff, decide_eq_false_iff_not]
        omega
      have hlow : isLowSurrogate c.toNat = false := by
        unfold isLowSurrogate
        simp only [Bool.and_eq_false_iff, decide_eq_false_iff_not]
        omega
      simp [hhigh, hlow, Char.ofNat_toNat]
    rw [stringBody, hex4?_hexDigit _ hcontrol]
    dsimp only
    rw [hunit]
  · rw [List.singleton_append, stringBody, if_neg hcontrol]
    all_goals simp_all

/-- The escaped characters up to the closing quote are read as the characters. -/
theorem stringBody_flatMap_escape (cs rest : List Char) :
    ∀ read : Read, read.high = none → stringBody read (cs.flatMap escape ++ '"' :: rest)
      = some (⟨read.chars.map (cs.reverse ++ ·), none⟩, rest) := by
  induction cs with
  | nil =>
    rintro ⟨chars, high⟩ rfl
    cases chars <;> rfl
  | cons c cs ih =>
    intro read h
    have hpush : read.push c = ⟨read.chars.map (c :: ·), none⟩ := by
      unfold Read.push
      rw [h]
    rw [List.flatMap_cons, List.append_assoc, stringBody_escape c read h, hpush, ih _ rfl]
    simp [Function.comp_def]

/-- **A QUOTED STRING IS READ BACK**, whatever follows it. -/
theorem string?_quote (s : String) (rest : List Char) :
    string? (s.toList.flatMap escape ++ '"' :: rest) = some (.typed (.text s), rest) := by
  unfold string?
  rw [stringBody_flatMap_escape _ _ .start rfl]
  simp [Read.start, Read.scalar]

/-! ## §3. Values. -/

theorem skipSpace_cons {c : Char} (h : isSpace c = false) (cs : List Char) :
    skipSpace (c :: cs) = c :: cs := by
  simp [skipSpace, h]

/-- No space begins a number. -/
theorem isSpace_eq_false {c : Char} (h : c = '-' ∨ c.isDigit = true) : isSpace c = false := by
  by_contra hspace
  simp only [isSpace, Bool.not_eq_false, Bool.or_eq_true, decide_eq_true_eq] at hspace
  rcases hspace with ((rfl | rfl) | rfl) | rfl <;> rcases h with h | h <;> cases h

/-- A legible number is read off the front of a text. -/
theorem value?_number {n : Number.Value} (h : Legible n) (fuel : Nat) {rest : List Char}
    (hrest : Ends rest) :
    value? (fuel + 1) (Json.numberText n ++ rest) = some (.typed (.number n), rest) := by
  obtain ⟨l, hl, hvalue⟩ := h
  have hread : numberLiteral? (Json.numberText n ++ rest) = some (l, rest) := by
    rw [numberLiteral?_append hrest, hl]
    rfl
  obtain ⟨c, ds, hcs, hc⟩ := exists_cons_of_numberLiteral? hread
  rw [hcs] at hread ⊢
  unfold value?
  rw [skipSpace_cons (isSpace_eq_false hc)]
  -- neither a minus sign nor a digit begins a value of another kind
  split
  case h_7 =>
    rw [hread]
    show some (Node.scalar (numberScalar l), rest) = _
    unfold numberScalar
    rw [hvalue]
    rfl
  all_goals
    rename_i heq
    cases heq
    rcases hc with hc | hc <;> cases hc

/-- What a value begins with: no space, and no bracket that closes an empty list. -/
theorem exists_cons_compactChars {v : Json} (h : ∀ n ∈ v.numbers, Legible n) :
    ∃ c cs, Json.compactChars v = c :: cs ∧ isSpace c = false ∧ c ≠ ']' := by
  cases v with
  | null => exact ⟨_, _, rfl, rfl, by decide⟩
  | bool b => cases b <;> exact ⟨_, _, rfl, rfl, by decide⟩
  | text s => exact ⟨_, _, rfl, rfl, by decide⟩
  | list items => exact ⟨_, _, rfl, rfl, by decide⟩
  | object entries => exact ⟨_, _, rfl, rfl, by decide⟩
  | number n =>
    obtain ⟨l, hl, -⟩ := h n (List.mem_singleton.mpr rfl)
    obtain ⟨c, ds, hcs, hc⟩ := exists_cons_of_numberLiteral? hl
    refine ⟨c, ds, hcs, isSpace_eq_false hc, ?_⟩
    rintro rfl
    rcases hc with hc | hc <;> cases hc

/-- A string is read behind its opening quote. -/
theorem value?_quote (fuel : Nat) (s : String) (rest : List Char) :
    value? (fuel + 1) (quote s ++ rest) = some (.text s, rest) := by
  have hcs : quote s ++ rest = '"' :: (s.toList.flatMap escape ++ '"' :: rest) := by
    simp [quote]
  rw [hcs]
  show (string? (s.toList.flatMap escape ++ '"' :: rest) >>= _) = _
  rw [string?_quote]
  rfl

/-- A list that is not empty is read item by item. -/
theorem value?_bracket (fuel : Nat) {c : Char} (hspace : isSpace c = false) (hc : c ≠ ']')
    (cs : List Char) :
    value? (fuel + 1) ('[' :: c :: cs)
      = (items? fuel (c :: cs)).map (Prod.map (Node.list false) id) := by
  unfold value?
  rw [skipSpace_cons rfl]
  split
  case h_2 rest heq =>
    cases heq
    rw [skipSpace_cons hspace]
    split
    · rename_i heq
      cases heq
      exact absurd rfl hc
    · cases items? fuel (c :: cs) <;> rfl
  all_goals simp_all

/-- An object that is not empty is read entry by entry. -/
theorem value?_brace (fuel : Nat) (cs : List Char) :
    value? (fuel + 1) ('{' :: '"' :: cs)
      = (entries? fuel ('"' :: cs)).map (Prod.map (Node.map false) id) := by
  show (entries? fuel ('"' :: cs) >>= _) = _
  cases entries? fuel ('"' :: cs) <;> rfl

/-- Items begin as the first of them does. -/
theorem exists_cons_compactItems {v : Json} (items : List Json) (h : ∀ n ∈ v.numbers, Legible n) :
    ∃ c cs, Json.compactItems (v :: items) = c :: cs ∧ isSpace c = false ∧ c ≠ ']' := by
  obtain ⟨c, cs, hcs, hc⟩ := exists_cons_compactChars h
  cases items with
  | nil => exact ⟨c, cs, hcs, hc⟩
  | cons w items =>
    refine ⟨c, cs ++ ',' :: Json.compactItems (w :: items), ?_, hc⟩
    simp [Json.compactItems, hcs]

/-- Entries begin with the quote of a key. -/
theorem exists_quote_compactEntries (e : String × Json) (entries : List (String × Json)) :
    ∃ cs, Json.compactEntries (e :: entries) = '"' :: cs := by
  cases entries <;> exact ⟨_, rfl⟩

section Entry

variable {fuel : Nat} {cs rest : List Char} {n : Node} (k : String)

theorem quote_append_cons :
    quote k ++ ':' :: cs = '"' :: (k.toList.flatMap escape ++ '"' :: ':' :: cs) := by
  simp [quote]

/-- An entry before the closing brace is the last one. -/
theorem entries?_last (h : value? fuel cs = some (n, '}' :: rest)) :
    entries? (fuel + 1) (quote k ++ ':' :: cs) = some ([(.text k, n)], rest) := by
  rw [quote_append_cons]
  show (string? (k.toList.flatMap escape ++ '"' :: ':' :: cs) >>= _) = _
  rw [string?_quote]
  show (value? fuel cs >>= _) = _
  rw [h]
  rfl

/-- Behind an entry and a comma stand more entries. -/
theorem entries?_more (h : value? fuel cs = some (n, ',' :: rest)) :
    entries? (fuel + 1) (quote k ++ ':' :: cs)
      = (entries? fuel rest).map (Prod.map ((.text k, n) :: ·) id) := by
  rw [quote_append_cons]
  show (string? (k.toList.flatMap escape ++ '"' :: ':' :: cs) >>= _) = _
  rw [string?_quote]
  show (value? fuel cs >>= _) = _
  rw [h]
  show (entries? fuel rest >>= _) = _
  cases entries? fuel rest <;> rfl

end Entry

/-- What is read back with so much fuel: the values, items and entries whose texts are not longer. -/
structure ReadsBack (fuel : Nat) : Prop where
  value : ∀ v : Json, (∀ n ∈ v.numbers, Legible n) → (Json.compactChars v).length ≤ fuel →
    ∀ rest, Ends rest → value? fuel (Json.compactChars v ++ rest) = some (v.node, rest)
  items : ∀ v items, (∀ n ∈ Json.itemNumbers (v :: items), Legible n) →
    (Json.compactItems (v :: items)).length < fuel →
    ∀ rest, items? fuel (Json.compactItems (v :: items) ++ ']' :: rest)
      = some (Json.itemNodes (v :: items), rest)
  entries : ∀ e entries, (∀ n ∈ Json.entryNumbers (e :: entries), Legible n) →
    (Json.compactEntries (e :: entries)).length < fuel →
    ∀ rest, entries? fuel (Json.compactEntries (e :: entries) ++ '}' :: rest)
      = some (Json.entryNodes (e :: entries), rest)

namespace ReadsBack

variable {fuel : Nat} (ih : ReadsBack fuel)
include ih

/-- **Step** for values. -/
theorem value_succ {v : Json} (h : ∀ n ∈ v.numbers, Legible n)
    (hfuel : (Json.compactChars v).length ≤ fuel + 1) {rest : List Char} (hrest : Ends rest) :
    value? (fuel + 1) (Json.compactChars v ++ rest) = some (v.node, rest) := by
  cases v with
  | null => rfl
  | bool b => cases b <;> rfl
  | number n => exact value?_number (h n (List.mem_singleton.mpr rfl)) fuel hrest
  | text s => exact value?_quote fuel s rest
  | list items =>
    cases items with
    | nil => rfl
    | cons v items =>
      -- the reader looks behind the bracket before it reads items, so their first character counts
      have hv : ∀ n ∈ v.numbers, Legible n := fun n hn => h n (List.mem_append_left _ hn)
      have hlist : Json.compactChars (.list (v :: items)) ++ rest
          = '[' :: (Json.compactItems (v :: items) ++ ']' :: rest) := by
        simp [Json.compactChars]
      have hitems := ih.items v items h (by simp [Json.compactChars] at hfuel; omega) rest
      obtain ⟨c, cs, hcs, hspace, hc⟩ := exists_cons_compactItems items hv
      rw [hcs] at hitems
      rw [hlist, hcs, List.cons_append, value?_bracket fuel hspace hc, ← List.cons_append, hitems]
      rfl
  | object entries =>
    cases entries with
    | nil => rfl
    | cons e entries =>
      have hobject : Json.compactChars (.object (e :: entries)) ++ rest
          = '{' :: (Json.compactEntries (e :: entries) ++ '}' :: rest) := by
        simp [Json.compactChars]
      have hentries := ih.entries e entries h (by simp [Json.compactChars] at hfuel; omega) rest
      obtain ⟨cs, hcs⟩ := exists_quote_compactEntries e entries
      rw [hcs] at hentries
      rw [hobject, hcs, List.cons_append, value?_brace, ← List.cons_append, hentries]
      rfl

/-- **Step** for items. -/
theorem items_succ {v : Json} {items : List Json}
    (h : ∀ n ∈ Json.itemNumbers (v :: items), Legible n)
    (hfuel : (Json.compactItems (v :: items)).length < fuel + 1) (rest : List Char) :
    items? (fuel + 1) (Json.compactItems (v :: items) ++ ']' :: rest)
      = some (Json.itemNodes (v :: items), rest) := by
  have hv : ∀ n ∈ v.numbers, Legible n := fun n hn => h n (List.mem_append_left _ hn)
  cases items with
  | nil =>
    have hread := ih.value v hv (by simp [Json.compactItems] at hfuel; omega) _ (ends_bracket rest)
    unfold items? Json.compactItems
    rw [hread]
    rfl
  | cons w items =>
    have hcs : Json.compactItems (v :: w :: items) ++ ']' :: rest
        = Json.compactChars v ++ ',' :: (Json.compactItems (w :: items) ++ ']' :: rest) := by
      simp [Json.compactItems]
    have hlength : (Json.compactItems (v :: w :: items)).length
        = (Json.compactChars v).length + (Json.compactItems (w :: items)).length + 1 := by
      simp [Json.compactItems]
      omega
    have hread := ih.value v hv (by omega) _
      (ends_comma (Json.compactItems (w :: items) ++ ']' :: rest))
    have hitems := ih.items w items (fun n hn => h n (List.mem_append_right _ hn)) (by omega) rest
    rw [hcs]
    unfold items?
    rw [hread]
    show (items? fuel (Json.compactItems (w :: items) ++ ']' :: rest) >>= _) = _
    rw [hitems]
    rfl

/-- **Step** for entries. -/
theorem entries_succ {e : String × Json} {entries : List (String × Json)}
    (h : ∀ n ∈ Json.entryNumbers (e :: entries), Legible n)
    (hfuel : (Json.compactEntries (e :: entries)).length < fuel + 1) (rest : List Char) :
    entries? (fuel + 1) (Json.compactEntries (e :: entries) ++ '}' :: rest)
      = some (Json.entryNodes (e :: entries), rest) := by
  obtain ⟨k, v⟩ := e
  have hv : ∀ n ∈ v.numbers, Legible n := fun n hn => h n (List.mem_append_left _ hn)
  cases entries with
  | nil =>
    have hcs : Json.compactEntries [(k, v)] ++ '}' :: rest
        = quote k ++ ':' :: (Json.compactChars v ++ '}' :: rest) := by
      simp [Json.compactEntries]
    have hread := ih.value v hv (by simp [Json.compactEntries] at hfuel; omega) _ (ends_brace rest)
    rw [hcs, entries?_last k hread]
    rfl
  | cons e entries =>
    have hcs : Json.compactEntries ((k, v) :: e :: entries) ++ '}' :: rest
        = quote k ++ ':' :: (Json.compactChars v ++
            ',' :: (Json.compactEntries (e :: entries) ++ '}' :: rest)) := by
      simp [Json.compactEntries]
    have hlength : (Json.compactEntries ((k, v) :: e :: entries)).length
        = (quote k).length + (Json.compactChars v).length
          + (Json.compactEntries (e :: entries)).length + 2 := by
      simp [Json.compactEntries]
      omega
    have hread := ih.value v hv (by omega) _
      (ends_comma (Json.compactEntries (e :: entries) ++ '}' :: rest))
    have hentries := ih.entries e entries (fun n hn => h n (List.mem_append_right _ hn))
      (by omega) rest
    rw [hcs, entries?_more k hread, hentries]
    rfl

end ReadsBack

/-- **A VALUE IS READ BACK OFF THE FRONT OF A TEXT**, and so are items and entries. -/
theorem readsBack (fuel : Nat) : ReadsBack fuel := by
  induction fuel with
  | zero =>
    -- no value has an empty text
    refine ⟨?_, fun _ _ _ hfuel => absurd hfuel (Nat.not_lt_zero _),
      fun _ _ _ hfuel => absurd hfuel (Nat.not_lt_zero _)⟩
    intro v h hfuel
    obtain ⟨c, cs, hcs, -⟩ := exists_cons_compactChars h
    rw [hcs] at hfuel
    cases hfuel
  | succ fuel ih =>
    exact ⟨fun _ h hfuel _ hrest => ih.value_succ h hfuel hrest,
      fun _ _ h hfuel rest => ih.items_succ h hfuel rest,
      fun _ _ h hfuel rest => ih.entries_succ h hfuel rest⟩

/-- **THE COMPACT TEXT OF A VALUE IS READ AS ITS TREE**, when its numbers are legible. -/
theorem node?_compact {v : Json} (h : ∀ n ∈ v.numbers, Legible n) :
    node? v.compact = some v.node := by
  have hread := (readsBack (2 * (Json.compactChars v).length + 1)).value v h (by omega) [] ends_nil
  rw [List.append_nil] at hread
  unfold node? Json.compact
  rw [String.toList_ofList]
  dsimp only
  rw [hread]
  rfl

end Source.JsonText

end ApiMethods
