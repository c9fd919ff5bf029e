/-
  ApiMethods.Proofs.Words
  ───────────────────────
  **WHAT THE CONVENTIONS KEEP OF A TEXT.**

  Every convention cuts a text into words and changes the case of their letters.

    • Cutting loses nothing but the separators: the words, one behind the other, are the letters
      and numbers of the text, in order (`flatten_words`), and no word is empty.
    • Changing the case never makes a letter disappear, and what comes out in ASCII is a letter or
      a digit of ASCII (`isAlphanum_of_mem_lower`, `isAlphanum_of_mem_upper`).
    • ASCII stays within ASCII.  Above it a character may leave, but never in both directions:
      its lower or its upper case has a character beyond ASCII (`exists_not_ascii_case`).

                    lower case      upper case
        Kelvin      k               Kelvin
        long s      long s          S
        dotted I    i and a dot     dotted I

  What a convention writes are the words, each character in one of its cases, with nothing or a
  `_` between two of them (`Cased`, `Conventional`).
-/
import Mathlib.Data.List.Basic
import ApiMethods.Proofs.Identifiers
import ApiMethods.Text.Words

namespace ApiMethods.Text

/-! ## §1. Cutting. -/

theorem flatten_pieces (piece cs : List Char) :
    (pieces piece cs).flatten = piece.reverse ++ cs.filter isAlphanumeric := by
  induction cs generalizing piece with
  | nil => simp [pieces]
  | cons c rest ih =>
    by_cases hc : isAlphanumeric c
    · simp [pieces, hc, ih]
    · simp [pieces, hc, ih]

/-- The words of a piece, one behind the other, are the piece. -/
theorem flatten_wordsOf (word : List Char) (k : Casing) (cs : List Char) (h : cs ≠ []) :
    (wordsOf word k cs).flatten = word.reverse ++ cs := by
  fun_induction wordsOf word k cs with
  | case1 => exact absurd rfl h
  | case2 => simp
  | case3 word k c d rest _ ih => simp [ih]
  | case4 word k c d rest _ _ ih => simp [ih]
  | case5 word k c d rest _ _ ih => simp [ih]

/-- No word is empty.  A word can only end before its last capital when there is a capital in it
    already, and then it has begun. -/
theorem ne_nil_of_mem_wordsOf (word : List Char) (k : Casing) (cs : List Char)
    (hk : k = .uppercase → word ≠ []) : ∀ w ∈ wordsOf word k cs, w ≠ [] := by
  fun_induction wordsOf word k cs with
  | case1 => nofun
  | case2 =>
    intro w hw
    cases List.mem_singleton.mp hw
    simp
  | case3 word k c d rest _ ih =>
    intro w hw
    rcases List.mem_cons.mp hw with rfl | hw
    · simp
    · exact ih nofun w hw
  | case4 word k c d rest _ hcapital ih =>
    intro w hw
    rcases List.mem_cons.mp hw with rfl | hw
    · simpa using hk hcapital.1
    · exact ih nofun w hw
  | case5 word k c d rest _ _ ih => exact ih fun _ => List.cons_ne_nil c word

/-- **THE WORDS OF A TEXT ARE ITS LETTERS AND NUMBERS**, in order. -/
theorem flatten_words (cs : List Char) : (words cs).flatten = cs.filter isAlphanumeric := by
  have hpiece : ∀ piece, (wordsOf [] .fresh piece).flatten = piece := by
    intro piece
    by_cases hnil : piece = []
    · rw [hnil]
      rfl
    · exact flatten_wordsOf [] .fresh piece hnil
  have hpieces : ∀ l : List (List Char), (l.flatMap (wordsOf [] .fresh)).flatten = l.flatten := by
    intro l
    induction l with
    | nil => rfl
    | cons piece rest ih =>
      rw [List.flatMap_cons, List.flatten_append, hpiece, ih, List.flatten_cons]
  unfold words
  rw [hpieces]
  exact flatten_pieces [] cs

theorem ne_nil_of_mem_words {cs w : List Char} (h : w ∈ words cs) : w ≠ [] := by
  obtain ⟨piece, -, hw⟩ := List.mem_flatMap.mp h
  exact ne_nil_of_mem_wordsOf [] .fresh piece nofun w hw

/-! ## §2. The case of ASCII. -/

theorem isAscii_of_isAlphanum {c : Char} (h : c.isAlphanum = true) : isAscii c = true := by
  have hrange := Name.isAlphanum_iff.mp h
  simp only [isAscii, decide_eq_true_eq]
  omega

/-- In ASCII a letter has its other case there, and a digit is its own. -/
theorem case_of_isAscii {c : Char} (h : isAscii c = true) :
    isAscii c.toLower = true ∧ isAscii c.toUpper = true ∧
    c.toLower.isAlphanum = c.isAlphanum ∧ c.toUpper.isAlphanum = c.isAlphanum ∧
    c.toLower.isDigit = c.isDigit ∧ c.toUpper.isDigit = c.isDigit := by
  have hall : ∀ n < 128, isAscii (Char.ofNat n).toLower = true ∧
      isAscii (Char.ofNat n).toUpper = true ∧
      (Char.ofNat n).toLower.isAlphanum = (Char.ofNat n).isAlphanum ∧
      (Char.ofNat n).toUpper.isAlphanum = (Char.ofNat n).isAlphanum ∧
      (Char.ofNat n).toLower.isDigit = (Char.ofNat n).isDigit ∧
      (Char.ofNat n).toUpper.isDigit = (Char.ofNat n).isDigit := by decide +kernel
  have hc := hall c.toNat (of_decide_eq_true h)
  rwa [Char.ofNat_toNat] at hc

/-! ## §3. The case of what is above ASCII. -/

/-- A row of shifts that leads from above ASCII to above ASCII, and to characters only. -/
def Shift.StaysAbove (s : Shift) : Prop :=
  0x80 ≤ s.run.first + s.distance ∧
    (s.run.last + s.distance < 0xD800 ∨
      0xDFFF < s.run.first + s.distance ∧ s.run.last + s.distance < 0x110000)

instance (s : Shift) : Decidable s.StaysAbove :=
  inferInstanceAs (Decidable (_ ∧ (_ ∨ _ ∧ _)))

/-- A distance that is found belongs to a row. -/
theorem exists_of_shiftOf? {c : Nat} {t : List Shift} {d : Int} (h : shiftOf? c t = some d) :
    ∃ s ∈ t, s.run.first ≤ c ∧ c ≤ s.run.last ∧ s.distance = d := by
  induction t with
  | nil => cases h
  | cons s rest ih =>
    unfold shiftOf? at h
    split at h
    · cases h
    · split at h
      · rename_i hin
        simp only [Run.contains, Bool.and_eq_true, decide_eq_true_eq] at hin
        exact ⟨s, List.mem_cons_self, hin.1.1, hin.1.2, Option.some.inj h⟩
      · obtain ⟨s', hs', hfound⟩ := ih h
        exact ⟨s', List.mem_cons_of_mem s hs', hfound⟩

theorem isAscii_shifted {s : Shift} (h : s.StaysAbove) {c : Nat} (hfirst : s.run.first ≤ c)
    (hlast : c ≤ s.run.last) : isAscii (Char.ofNat (c + s.distance).toNat) = false := by
  obtain ⟨hlow, hhigh⟩ := h
  have hvalid : (c + s.distance).toNat.isValidChar := by
    unfold Nat.isValidChar
    omega
  simp only [isAscii, toNat_ofNat hvalid, decide_eq_false_iff_not]
  omega

/-- The sign of the unit Kelvin, whose lower case is the letter k. -/
def kelvin : Nat := 0x212A

/-- In lower case only the Kelvin sign leads to ASCII. -/
theorem lowerShifts_stayAbove :
    ∀ s ∈ lowerShifts, s.StaysAbove ∨ s = ⟨⟨kelvin, kelvin, 1⟩, -8383⟩ := by
  decide +kernel

/-- In upper case only the dotless i and the long s lead to ASCII, one by one. -/
theorem upperShifts_stayAbove :
    ∀ s ∈ upperShifts, s.StaysAbove ∨
      s = ⟨⟨0x131, 0x131, 1⟩, -232⟩ ∨ s = ⟨⟨0x17F, 0x17F, 1⟩, -300⟩ := by
  decide +kernel

/-- Where the upper case is several characters, those in ASCII are letters. -/
theorem upperSpellings_letters :
    ∀ e ∈ upperSpellings, e.2 ≠ [] ∧
      ∀ n ∈ e.2, isAscii (Char.ofNat n) = true → (Char.ofNat n).isAlphanum = true := by
  decide +kernel

/-- **THE LOWER CASE OF WHAT IS ABOVE ASCII**: one character above ASCII, but for the Kelvin sign and
the capital I with a dot. -/
theorem lower_above {c : Char} (h : isAscii c = false) :
    (c.toNat = kelvin ∧ lower c = ['k']) ∨ lower c = ['i', Char.ofNat 0x307] ∨
      ∃ e, lower c = [e] ∧ isAscii e = false := by
  unfold lower
  rw [h]
  simp only [Bool.false_eq_true, if_false]
  split
  · exact .inr (.inl rfl)
  · split
    · rename_i d hd
      obtain ⟨s, hs, hfirst, hlast, rfl⟩ := exists_of_shiftOf? hd
      rcases lowerShifts_stayAbove s hs with hstay | rfl
      · exact .inr (.inr ⟨_, rfl, isAscii_shifted hstay hfirst hlast⟩)
      · have hc : c.toNat = kelvin := Nat.le_antisymm hlast hfirst
        rw [hc]
        exact .inl ⟨rfl, by decide⟩
    · exact .inr (.inr ⟨c, rfl, h⟩)

/-- **THE UPPER CASE OF WHAT IS ABOVE ASCII**: there is one, and what it has in ASCII are letters. -/
theorem upper_above {c : Char} (h : isAscii c = false) :
    upper c ≠ [] ∧ ∀ e ∈ upper c, isAscii e = true → e.isAlphanum = true := by
  unfold upper
  rw [h]
  simp only [Bool.false_eq_true, if_false]
  split
  · rename_i spelling hspelling
    obtain ⟨before, after, htable, -⟩ := List.lookup_eq_some_iff.mp hspelling
    have hmem : (c.toNat, spelling) ∈ upperSpellings := by
      rw [htable]
      simp
    obtain ⟨hne, hletters⟩ := upperSpellings_letters _ hmem
    refine ⟨by simpa using hne, fun e he hascii => ?_⟩
    obtain ⟨n, hn, rfl⟩ := List.mem_map.mp he
    exact hletters n hn hascii
  · split
    · rename_i d hd
      refine ⟨by simp, fun e he hascii => ?_⟩
      cases List.mem_singleton.mp he
      obtain ⟨s, hs, hfirst, hlast, rfl⟩ := exists_of_shiftOf? hd
      rcases upperShifts_stayAbove s hs with hstay | rfl | rfl
      · rw [isAscii_shifted hstay hfirst hlast] at hascii
        cases hascii
      · have hc : c.toNat = 0x131 := Nat.le_antisymm hlast hfirst
        rw [hc]
        decide
      · have hc : c.toNat = 0x17F := Nat.le_antisymm hlast hfirst
        rw [hc]
        decide
    · refine ⟨by simp, fun e he hascii => ?_⟩
      cases List.mem_singleton.mp he
      rw [h] at hascii
      cases hascii

/-! ## §4. Any character. -/

theorem lower_ne_nil (c : Char) : lower c ≠ [] := by
  cases h : isAscii c with
  | true => simp [lower_of_isAscii h]
  | false => rcases lower_above h with ⟨-, hl⟩ | hl | ⟨e, hl, -⟩ <;> simp [hl]

theorem upper_ne_nil (c : Char) : upper c ≠ [] := by
  cases h : isAscii c with
  | true => simp [upper_of_isAscii h]
  | false => exact (upper_above h).1

/-- What the lower case of a letter or number has in ASCII is a letter or a digit. -/
theorem isAlphanum_of_mem_lower {c e : Char} (hc : isAlphanumeric c = true) (he : e ∈ lower c)
    (hascii : isAscii e = true) : e.isAlphanum = true := by
  cases h : isAscii c with
  | true =>
    rw [lower_of_isAscii h] at he
    cases List.mem_singleton.mp he
    rw [isAlphanumeric_of_isAscii h] at hc
    rw [(case_of_isAscii h).2.2.1, hc]
  | false =>
    rcases lower_above h with ⟨-, hl⟩ | hl | ⟨e', hl, hout⟩ <;> rw [hl] at he
    · cases List.mem_singleton.mp he
      decide
    · rcases List.mem_cons.mp he with rfl | he
      · decide
      · cases List.mem_singleton.mp he
        revert hascii
        decide
    · cases List.mem_singleton.mp he
      rw [hout] at hascii
      cases hascii

/-- What the upper case of a letter or number has in ASCII is a letter or a digit. -/
theorem isAlphanum_of_mem_upper {c e : Char} (hc : isAlphanumeric c = true) (he : e ∈ upper c)
    (hascii : isAscii e = true) : e.isAlphanum = true := by
  cases h : isAscii c with
  | true =>
    rw [upper_of_isAscii h] at he
    cases List.mem_singleton.mp he
    rw [isAlphanumeric_of_isAscii h] at hc
    rw [(case_of_isAscii h).2.2.2.1, hc]
  | false => exact (upper_above h).2 e he hascii

/-- The Kelvin sign is its own upper case. -/
theorem upper_kelvin {c : Char} (h : c.toNat = kelvin) : upper c = [c] := by
  have hspelling : upperSpellings.lookup kelvin = none := by decide +kernel
  have hshift : shiftOf? kelvin upperShifts = none := by decide +kernel
  have hascii : isAscii c = false := by
    simp only [isAscii, h]
    decide
  unfold upper
  rw [hascii, h, hspelling, hshift]
  rfl

/-- **WHAT IS ABOVE ASCII SHOWS IN ONE OF ITS CASES.** -/
theorem exists_not_ascii_case {c : Char} (h : isAscii c = false) :
    (∃ e ∈ lower c, isAscii e = false) ∨ ∃ e ∈ upper c, isAscii e = false := by
  rcases lower_above h with ⟨hkelvin, -⟩ | hl | ⟨e, hl, hout⟩
  · rw [upper_kelvin hkelvin]
    exact .inr ⟨c, List.mem_singleton_self c, h⟩
  · rw [hl]
    exact .inl ⟨Char.ofNat 0x307, by simp, by decide⟩
  · rw [hl]
    exact .inl ⟨e, List.mem_singleton_self e, hout⟩

/-! ## §5. Words as they are written. -/

/-- What a character may be written as: its lower or its upper case, or the final form of a capital
    sigma. -/
def casesOf (c : Char) : List (List Char) :=
  [lower c, upper c] ++ if c = 'Σ' then [['ς']] else []

/-- A word as it is written, each of its characters in some case. -/
inductive Cased : List Char → List Char → Prop
  | nil : Cased [] []
  | cons {c : Char} {part w l : List Char} (hpart : part ∈ casesOf c) (hrest : Cased w l) :
    Cased (c :: w) (part ++ l)

theorem lower_mem_casesOf (c : Char) : lower c ∈ casesOf c := by simp [casesOf]

theorem upper_mem_casesOf (c : Char) : upper c ∈ casesOf c := by simp [casesOf]

theorem mem_casesOf {c : Char} {part : List Char} (h : part ∈ casesOf c) :
    part = lower c ∨ part = upper c ∨ (c = 'Σ' ∧ part = ['ς']) := by
  unfold casesOf at h
  split at h <;> simp_all

theorem cased_lowerWord (w : List Char) : Cased w (lowerWord w) := by
  fun_induction lowerWord w with
  | case1 => exact .nil
  | case2 =>
    have hsigma : Cased ['Σ'] (['ς'] ++ []) := .cons (by simp [casesOf]) .nil
    exact hsigma
  | case3 c _ =>
    have hone : Cased [c] (lower c ++ []) := .cons (lower_mem_casesOf c) .nil
    rwa [List.append_nil] at hone
  | case4 c rest _ ih => exact .cons (lower_mem_casesOf c) ih

theorem cased_upperWord (w : List Char) : Cased w (upperWord w) := by
  induction w with
  | nil => exact .nil
  | cons c rest ih => exact .cons (upper_mem_casesOf c) ih

theorem cased_capitalWord (w : List Char) : Cased w (capitalWord w) := by
  cases w with
  | nil => exact .nil
  | cons c rest => exact .cons (upper_mem_casesOf c) (cased_lowerWord rest)

namespace Cased

variable {w l : List Char}

/-- What a written word has in ASCII are letters and digits. -/
theorem isAlphanum (h : Cased w l) (hw : ∀ c ∈ w, isAlphanumeric c = true) {e : Char}
    (he : e ∈ l) (hascii : isAscii e = true) : e.isAlphanum = true := by
  induction h with
  | nil => cases he
  | @cons c part w l hpart _ ih =>
    have hc := hw c List.mem_cons_self
    rcases List.mem_append.mp he with he | he
    · rcases mem_casesOf hpart with rfl | rfl | ⟨-, rfl⟩
      · exact isAlphanum_of_mem_lower hc he hascii
      · exact isAlphanum_of_mem_upper hc he hascii
      · cases List.mem_singleton.mp he
        revert hascii
        decide
    · exact ih (fun d hd => hw d (List.mem_cons_of_mem c hd)) he

/-- A word in ASCII is written in ASCII. -/
theorem isAscii (h : Cased w l) (hw : ∀ c ∈ w, Text.isAscii c = true) :
    ∀ e ∈ l, Text.isAscii e = true := by
  induction h with
  | nil => nofun
  | @cons c part w l hpart _ ih =>
    have hc := hw c List.mem_cons_self
    intro e he
    rcases List.mem_append.mp he with he | he
    · rcases mem_casesOf hpart with rfl | rfl | ⟨rfl, -⟩
      · rw [lower_of_isAscii hc] at he
        cases List.mem_singleton.mp he
        exact (case_of_isAscii hc).1
      · rw [upper_of_isAscii hc] at he
        cases List.mem_singleton.mp he
        exact (case_of_isAscii hc).2.1
      · exact absurd hc (by decide)
    · exact ih (fun d hd => hw d (List.mem_cons_of_mem c hd)) e he

theorem ne_nil (h : Cased w l) (hw : w ≠ []) : l ≠ [] := by
  cases h with
  | nil => exact absurd rfl hw
  | @cons c part w l hpart _ =>
    rcases mem_casesOf hpart with rfl | rfl | ⟨-, rfl⟩
    · simp [lower_ne_nil]
    · simp [upper_ne_nil]
    · simp

/-- A word begins with a digit when it is written with one in front, if it begins in ASCII. -/
theorem isDigit_head {c : Char} (h : Cased (c :: w) l) (hc : Text.isAscii c = true) :
    ∃ e rest, l = e :: rest ∧ e.isDigit = c.isDigit := by
  cases h with
  | @cons c part w l hpart _ =>
    rcases mem_casesOf hpart with rfl | rfl | ⟨rfl, -⟩
    · exact ⟨c.toLower, l, by rw [lower_of_isAscii hc]; rfl, (case_of_isAscii hc).2.2.2.2.1⟩
    · exact ⟨c.toUpper, l, by rw [upper_of_isAscii hc]; rfl, (case_of_isAscii hc).2.2.2.2.2⟩
    · exact absurd hc (by decide)

end Cased

/-- What is above ASCII shows in a word when the word is in lower case or in upper case. -/
theorem exists_not_ascii_word {w : List Char} {c : Char} (hc : c ∈ w) (h : isAscii c = false) :
    (∃ e ∈ lowerWord w, isAscii e = false) ∨ ∃ e ∈ upperWord w, isAscii e = false := by
  rcases exists_not_ascii_case h with ⟨e, he, hout⟩ | ⟨e, he, hout⟩
  · left
    fun_induction lowerWord w with
    | case1 => cases hc
    | case2 => exact ⟨'ς', List.mem_singleton_self _, by decide⟩
    | case3 d _ =>
      cases List.mem_singleton.mp hc
      exact ⟨e, he, hout⟩
    | case4 d rest _ ih =>
      rcases List.mem_cons.mp hc with rfl | hc
      · exact ⟨e, List.mem_append_left _ he, hout⟩
      · obtain ⟨e', he', hout'⟩ := ih hc
        exact ⟨e', List.mem_append_right _ he', hout'⟩
  · exact .inr ⟨e, List.mem_flatMap.mpr ⟨c, hc, he⟩, hout⟩

/-- Words as a convention writes them: in some case, with nothing or a `_` between them. -/
inductive Conventional (ws : List (List Char)) : List Char → Prop
  | together {ls : List (List Char)} (h : List.Forall₂ Cased ws ls) : Conventional ws ls.flatten
  | apart {ls : List (List Char)} (h : List.Forall₂ Cased ws ls) :
    Conventional ws (['_'].intercalate ls)

theorem forall₂_cased {f : List Char → List Char} (h : ∀ w, Cased w (f w))
    (ws : List (List Char)) : List.Forall₂ Cased ws (ws.map f) := by
  induction ws with
  | nil => exact .nil
  | cons w rest ih => exact .cons (h w) ih

theorem conventional_pascalCase (s : String) :
    Conventional (words s.toList) (pascalCase s).toList := by
  unfold pascalCase
  rw [String.toList_ofList, List.flatMap_def]
  exact .together (forall₂_cased cased_capitalWord _)

theorem conventional_camelCase (s : String) :
    Conventional (words s.toList) (camelCase s).toList := by
  unfold camelCase
  rw [String.toList_ofList]
  cases words s.toList with
  | nil => exact .together .nil
  | cons w rest =>
    show Conventional (w :: rest) (lowerWord w ++ rest.flatMap capitalWord)
    rw [List.flatMap_def]
    exact .together (.cons (cased_lowerWord w) (forall₂_cased cased_capitalWord rest))

theorem conventional_snakeCase (s : String) :
    Conventional (words s.toList) (snakeCase s).toList := by
  unfold snakeCase
  rw [String.toList_ofList]
  exact .apart (forall₂_cased cased_lowerWord _)

theorem conventional_screamingSnakeCase (s : String) :
    Conventional (words s.toList) (screamingSnakeCase s).toList := by
  unfold screamingSnakeCase
  rw [String.toList_ofList]
  exact .apart (forall₂_cased cased_upperWord _)

theorem mem_intercalate {sep : Char} {ls : List (List Char)} {e : Char}
    (h : e ∈ [sep].intercalate ls) : e = sep ∨ ∃ l ∈ ls, e ∈ l := by
  induction ls with
  | nil => cases h
  | cons l rest ih =>
    cases rest with
    | nil =>
      rw [List.intercalate_singleton] at h
      exact .inr ⟨l, List.mem_singleton_self l, h⟩
    | cons l' rest =>
      rw [List.intercalate_cons_cons] at h
      rcases List.mem_append.mp h with h | h
      · rcases List.mem_append.mp h with h | h
        · exact .inr ⟨l, List.mem_cons_self, h⟩
        · exact .inl (List.mem_singleton.mp h)
      · exact (ih h).imp_right fun ⟨k, hk, he⟩ => ⟨k, List.mem_cons_of_mem l hk, he⟩

theorem mem_intercalate_of_mem {sep : Char} {ls : List (List Char)} {l : List Char}
    (hl : l ∈ ls) {e : Char} (he : e ∈ l) : e ∈ [sep].intercalate ls := by
  induction ls with
  | nil => cases hl
  | cons k rest ih =>
    cases rest with
    | nil =>
      cases List.mem_singleton.mp hl
      rwa [List.intercalate_singleton]
    | cons k' rest =>
      rw [List.intercalate_cons_cons]
      rcases List.mem_cons.mp hl with rfl | hl
      · exact List.mem_append_left _ (List.mem_append_left _ he)
      · exact List.mem_append_right _ (ih hl)

/-- Every written word is written from a word. -/
theorem exists_of_mem_written {ws ls : List (List Char)} (h : List.Forall₂ Cased ws ls) :
    ∀ l ∈ ls, ∃ w ∈ ws, Cased w l := by
  induction h with
  | nil => nofun
  | @cons w l ws ls hl _ ih =>
    intro k hk
    rcases List.mem_cons.mp hk with rfl | hk
    · exact ⟨w, List.mem_cons_self, hl⟩
    · obtain ⟨w', hw', hcased⟩ := ih k hk
      exact ⟨w', List.mem_cons_of_mem w hw', hcased⟩

namespace Conventional

variable {ws : List (List Char)} {v : List Char}

/-- What a convention writes is a `_`, or part of a written word. -/
theorem mem (h : Conventional ws v) {e : Char} (he : e ∈ v) :
    e = '_' ∨ ∃ w ∈ ws, ∃ l, Cased w l ∧ e ∈ l := by
  cases h with
  | together hls =>
    obtain ⟨l, hl, he⟩ := List.mem_flatten.mp he
    obtain ⟨w, hw, hcased⟩ := exists_of_mem_written hls l hl
    exact .inr ⟨w, hw, l, hcased, he⟩
  | apart hls =>
    refine (mem_intercalate he).imp_right ?_
    rintro ⟨l, hl, he⟩
    obtain ⟨w, hw, hcased⟩ := exists_of_mem_written hls l hl
    exact ⟨w, hw, l, hcased, he⟩

/-- What a convention writes begins with its first word. -/
theorem begins {w : List Char} (h : Conventional (w :: ws) v) :
    ∃ l rest, Cased w l ∧ v = l ++ rest := by
  cases h with
  | together hls =>
    cases hls with
    | @cons _ l _ ls hl hls => exact ⟨l, ls.flatten, hl, rfl⟩
  | apart hls =>
    cases hls with
    | @cons _ l _ ls hl hls =>
      cases ls with
      | nil => exact ⟨l, [], hl, by simp⟩
      | cons k ls => exact ⟨l, '_' :: ['_'].intercalate (k :: ls), hl, by simp⟩

end Conventional

/-- What a name in `PascalCase` has in ASCII are letters and digits. -/
theorem isAlphanum_of_mem_pascalCase {s : String} {e : Char} (he : e ∈ (pascalCase s).toList)
    (hascii : isAscii e = true) : e.isAlphanum = true := by
  rw [pascalCase, String.toList_ofList] at he
  obtain ⟨w, hw, he⟩ := List.mem_flatMap.mp he
  refine (cased_capitalWord w).isAlphanum (fun c hc => ?_) he hascii
  have hc : c ∈ (words s.toList).flatten := List.mem_flatten.mpr ⟨w, hw, hc⟩
  rw [flatten_words] at hc
  exact (List.mem_filter.mp hc).2

end ApiMethods.Text
