/-
  ApiMethods.Proofs.PathGrammar
  ─────────────────────────────
  **THE PIECES OF A PATH ARE THE ONLY ONES ITS GRAMMAR ADMITS.**

  A path is cut at its braces, and no other way to cut it is a proper one.  `Cut` says what a proper
  cut is, by looking at the pieces alone:

      text       put one behind the other, they are the path,
      literals   none is empty, and no two stand side by side,
      slots      no name has a closing brace,
      braces     a literal with an opening brace is the last piece, and nothing closes the brace.

  `Scanned` says how a cut comes about: as long as some opening brace is closed, a literal and a
  slot are taken off the front, and what is left over is one literal.  Scanning and cutting are the
  same relation, and both have exactly one outcome.
-/
import Mathlib.Data.List.Chain
import ApiMethods.Proofs.PathTemplates
import ApiMethods.Text.Split

namespace ApiMethods.Path

open ApiMethods.Text (append_cons_inj)

/-! ## §1. Proper cuts. -/

/-- Whether a piece is a literal. -/
def Piece.isLiteral : Piece → Bool
  | literal _ => true
  | slot _ => false

/-- No opening brace of a text is closed. -/
def Unclosed (text : List Char) : Prop :=
  ∀ before after, text = before ++ '\x7b' :: after → '\x7d' ∉ after

/-- The pieces are a proper cut of the path. -/
structure Cut (path : List Char) (pieces : List Piece) : Prop where
  /-- The pieces, as they stand in a path, are the path. -/
  text : pieces.flatMap Piece.text = path
  /-- No literal is empty. -/
  nonempty : Piece.literal [] ∉ pieces
  /-- No two literals stand side by side. -/
  apart : pieces.IsChain fun p q => ¬ (p.isLiteral ∧ q.isLiteral)
  /-- A slot ends at the first closing brace. -/
  names : ∀ name, Piece.slot name ∈ pieces → '\x7d' ∉ name
  /-- Only the last piece can be a literal with an opening brace. -/
  inner : ∀ text, Piece.literal text ∈ pieces.dropLast → '\x7b' ∉ text
  /-- Nothing closes an opening brace of the last piece. -/
  final : ∀ text, pieces.getLast? = some (.literal text) → Unclosed text

/-! ## §2. Scanning. -/

/-- The pieces are found from the front: a literal and the slot behind it as long as there is a slot,
    and then the rest. -/
inductive Scanned : List Char → List Piece → Prop
  | rest {text : List Char} : Unclosed text → Scanned text (Piece.ofLiteral text)
  | slot {text name path : List Char} {pieces : List Piece} : '\x7b' ∉ text → '\x7d' ∉ name →
      Scanned path pieces →
      Scanned (text ++ '\x7b' :: (name ++ '\x7d' :: path))
        (Piece.ofLiteral text ++ .slot name :: pieces)

/-- A text without an opening brace is read as it is. -/
theorem splitFrom_append_of_not_mem {text : List Char} (h : '\x7b' ∉ text) (before path : List Char) :
    splitFrom before none (text ++ path) = splitFrom (text.reverse ++ before) none path := by
  induction text generalizing before with
  | nil => rfl
  | cons c rest ih =>
    have hc : c ≠ '\x7b' := fun heq => h (heq ▸ List.mem_cons_self)
    have hrest : '\x7b' ∉ rest := fun hmem => h (List.mem_cons_of_mem c hmem)
    rw [List.cons_append, splitFrom, if_neg hc, ih hrest, List.reverse_cons, List.append_assoc]
    rfl

/-- A name is read up to the closing brace. -/
theorem splitFrom_name_append {name : List Char} (h : '\x7d' ∉ name) (before inside path : List Char) :
    splitFrom before (some inside) (name ++ path)
      = splitFrom before (some (name.reverse ++ inside)) path := by
  induction name generalizing inside with
  | nil => rfl
  | cons c rest ih =>
    have hc : c ≠ '\x7d' := fun heq => h (heq ▸ List.mem_cons_self)
    have hrest : '\x7d' ∉ rest := fun hmem => h (List.mem_cons_of_mem c hmem)
    rw [List.cons_append, splitFrom, if_neg hc, ih hrest, List.reverse_cons, List.append_assoc]
    rfl

/-- **Step**: a literal and a slot in front are the first pieces. -/
theorem split_append_slot {text name : List Char} (htext : '\x7b' ∉ text) (hname : '\x7d' ∉ name)
    (path : List Char) :
    split (text ++ '\x7b' :: (name ++ '\x7d' :: path))
      = Piece.ofLiteral text ++ .slot name :: split path := by
  unfold split
  rw [splitFrom_append_of_not_mem htext, splitFrom, if_pos rfl, splitFrom_name_append hname,
    splitFrom, if_pos rfl]
  simp

/-- What nothing closes is one literal. -/
theorem split_of_unclosed {text : List Char} (h : Unclosed text) :
    split text = Piece.ofLiteral text := by
  unfold split
  by_cases hopen : '\x7b' ∈ text
  · -- from the first opening brace on, a name is read that never ends
    obtain ⟨before, after, rfl, hbefore⟩ := List.eq_append_cons_of_mem hopen
    have hafter : '\x7d' ∉ after := h before after rfl
    have hname := splitFrom_name_append hafter (before.reverse ++ []) [] []
    rw [List.append_nil after] at hname
    rw [splitFrom_append_of_not_mem hbefore, splitFrom, if_pos rfl, hname]
    cases before <;> simp [splitFrom, Piece.ofLiteral]
  · have hread := splitFrom_append_of_not_mem hopen [] []
    rw [List.append_nil text] at hread
    rw [hread]
    simp [splitFrom]

/-- Where nothing closes the first opening brace, nothing closes a later one. -/
theorem unclosed_append {text after : List Char} (htext : '\x7b' ∉ text) (hafter : '\x7d' ∉ after) :
    Unclosed (text ++ '\x7b' :: after) := by
  intro before later heq hlater
  apply hafter
  by_cases hopen : '\x7b' ∈ before
  · -- a later brace stands behind the first one
    obtain ⟨front, between, rfl, hfront⟩ := List.eq_append_cons_of_mem hopen
    rw [List.append_assoc, List.cons_append] at heq
    obtain ⟨-, hrest⟩ := (append_cons_inj htext hfront).mp heq
    rw [hrest]
    exact List.mem_append_right _ (List.mem_cons_of_mem _ hlater)
  · obtain ⟨-, hrest⟩ := (append_cons_inj htext hopen).mp heq
    rw [hrest]
    exact hlater

/-- **Run**: a path is scanned into the pieces it is split into. -/
theorem scanned_split (path : List Char) : Scanned path (split path) := by
  -- the rest behind a slot is shorter than the path
  induction hlength : path.length using Nat.strongRecOn generalizing path with
  | ind n ih =>
    by_cases hopen : '\x7b' ∈ path
    · obtain ⟨text, after, rfl, htext⟩ := List.eq_append_cons_of_mem hopen
      by_cases hclose : '\x7d' ∈ after
      · obtain ⟨name, rest, rfl, hname⟩ := List.eq_append_cons_of_mem hclose
        have hshorter : rest.length < n := by
          rw [← hlength]
          simp only [List.length_append, List.length_cons]
          omega
        rw [split_append_slot htext hname]
        exact .slot htext hname (ih rest.length hshorter rest rfl)
      · have hunclosed : Unclosed (text ++ '\x7b' :: after) := unclosed_append htext hclose
        rw [split_of_unclosed hunclosed]
        exact .rest hunclosed
    · have hunclosed : Unclosed path := by
        intro before after heq _
        apply hopen
        rw [heq]
        simp
      rw [split_of_unclosed hunclosed]
      exact .rest hunclosed

/-- Scanning has no other outcome. -/
theorem Scanned.eq_split {path : List Char} {pieces : List Piece} (h : Scanned path pieces) :
    pieces = split path := by
  induction h with
  | rest h => exact (split_of_unclosed h).symm
  | slot htext hname _ ih => rw [split_append_slot htext hname, ih]

/-! ## §3. Scanned pieces are a proper cut. -/

theorem mem_ofLiteral {p : Piece} {text : List Char} :
    p ∈ Piece.ofLiteral text ↔ text ≠ [] ∧ p = .literal text := by
  cases text <;> simp [Piece.ofLiteral]

theorem ofLiteral_of_ne_nil {text : List Char} (h : text ≠ []) :
    Piece.ofLiteral text = [.literal text] := by
  cases text with
  | nil => exact absurd rfl h
  | cons c rest => rfl

theorem cut_of_unclosed {text : List Char} (h : Unclosed text) : Cut text (Piece.ofLiteral text) where
  text := flatMap_text_ofLiteral text
  nonempty := fun hmem => (mem_ofLiteral.mp hmem).1 (Piece.literal.inj (mem_ofLiteral.mp hmem).2).symm
  apart := by cases text <;> simp [Piece.ofLiteral]
  names := fun name hmem => by cases (mem_ofLiteral.mp hmem).2
  inner := by cases text <;> simp [Piece.ofLiteral]
  final := by
    intro last hlast
    have hmem := mem_ofLiteral.mp (List.mem_of_getLast? hlast)
    rw [Piece.literal.inj hmem.2]
    exact h

/-- A literal and a slot may stand in front of every proper cut. -/
theorem Cut.slot {text name path : List Char} {pieces : List Piece} (htext : '\x7b' ∉ text)
    (hname : '\x7d' ∉ name) (h : Cut path pieces) :
    Cut (text ++ '\x7b' :: (name ++ '\x7d' :: path))
      (Piece.ofLiteral text ++ .slot name :: pieces) where
  text := by
    rw [List.flatMap_append, List.flatMap_cons, flatMap_text_ofLiteral, h.text]
    simp [Piece.text]
  nonempty := by
    intro hmem
    rcases List.mem_append.mp hmem with hmem | hmem
    · exact (mem_ofLiteral.mp hmem).1 (Piece.literal.inj (mem_ofLiteral.mp hmem).2).symm
    · rcases List.mem_cons.mp hmem with heq | hmem
      · cases heq
      · exact h.nonempty hmem
  apart := by
    have hbehind : (Piece.slot name :: pieces).IsChain
        fun p q => ¬ (p.isLiteral ∧ q.isLiteral) := by
      refine h.apart.cons fun q _ => ?_
      simp [Piece.isLiteral]
    cases text with
    | nil => exact hbehind
    | cons c rest =>
      refine List.isChain_cons_cons.mpr ⟨?_, hbehind⟩
      simp [Piece.isLiteral]
  names := by
    intro other hmem
    rcases List.mem_append.mp hmem with hmem | hmem
    · cases (mem_ofLiteral.mp hmem).2
    · rcases List.mem_cons.mp hmem with heq | hmem
      · rw [Piece.slot.inj heq]
        exact hname
      · exact h.names other hmem
  inner := by
    intro other hmem
    rw [List.dropLast_append_cons] at hmem
    rcases List.mem_append.mp hmem with hmem | hmem
    · rw [Piece.literal.inj (mem_ofLiteral.mp hmem).2]
      exact htext
    · cases pieces with
      | nil => cases hmem
      | cons p rest =>
        rcases List.mem_cons.mp hmem with heq | hmem
        · cases heq
        · exact h.inner other hmem
  final := by
    intro last hlast
    rw [List.getLast?_append_cons, List.getLast?_cons] at hlast
    cases hpieces : pieces.getLast? with
    | none => simp [hpieces] at hlast
    | some p =>
      rw [hpieces] at hlast
      apply h.final
      rw [hpieces]
      exact hlast

theorem Scanned.cut {path : List Char} {pieces : List Piece} (h : Scanned path pieces) :
    Cut path pieces := by
  induction h with
  | rest h => exact cut_of_unclosed h
  | slot htext hname _ ih => exact ih.slot htext hname

/-! ## §4. A proper cut is what scanning yields. -/

theorem Cut.ne_nil_of_mem {path text : List Char} {pieces : List Piece} (h : Cut path pieces)
    (hmem : Piece.literal text ∈ pieces) : text ≠ [] := by
  intro heq
  apply h.nonempty
  rw [heq] at hmem
  exact hmem

/-- What stands in front of the last piece. -/
theorem mem_dropLast_append_cons (front : List Piece) (p q : Piece) (pieces : List Piece)
    (h : q ∈ front ∨ q ∈ (p :: pieces).dropLast) : q ∈ (front ++ p :: pieces).dropLast := by
  rw [List.dropLast_append_cons]
  exact List.mem_append.mpr h

/-- **Step**: in a proper cut, the first slot and the literal in front of it can be told from the
    path, and what follows is a proper cut of the rest. -/
theorem Cut.of_slot {text name path : List Char} {pieces : List Piece}
    (h : Cut path (Piece.ofLiteral text ++ .slot name :: pieces)) :
    '\x7b' ∉ text ∧ '\x7d' ∉ name ∧
      path = text ++ '\x7b' :: (name ++ '\x7d' :: pieces.flatMap Piece.text) ∧
      Cut (pieces.flatMap Piece.text) pieces := by
  have hbehind : ∀ p ∈ pieces, p ∈ Piece.ofLiteral text ++ .slot name :: pieces := fun p hp =>
    List.mem_append_right _ (List.mem_cons_of_mem _ hp)
  refine ⟨?_, ?_, ?_, rfl, fun hmem => h.nonempty (hbehind _ hmem), ?_, ?_, ?_, ?_⟩
  · by_cases hempty : text = []
    · rw [hempty]
      exact List.not_mem_nil
    · apply h.inner
      exact mem_dropLast_append_cons _ _ _ _ (.inl (mem_ofLiteral.mpr ⟨hempty, rfl⟩))
  · exact h.names name (List.mem_append_right _ List.mem_cons_self)
  · rw [← h.text, List.flatMap_append, List.flatMap_cons, flatMap_text_ofLiteral]
    simp [Piece.text]
  · exact h.apart.right_of_append.tail
  · exact fun other hmem => h.names other (hbehind _ hmem)
  · intro other hmem
    apply h.inner
    cases pieces with
    | nil => cases hmem
    | cons p rest => exact mem_dropLast_append_cons _ _ _ _ (.inr (List.mem_cons_of_mem _ hmem))
  · intro last hlast
    apply h.final
    rw [List.getLast?_append_cons, List.getLast?_cons, hlast]
    rfl

/-- **Run**: a proper cut is scanned piece by piece. -/
theorem Cut.scanned : ∀ {pieces : List Piece} {path : List Char}, Cut path pieces →
    Scanned path pieces
  | [], path, h => by
    have hpath : path = [] := h.text.symm
    rw [hpath]
    exact .rest fun before after heq => absurd heq (by simp)
  | [.literal text], path, h => by
    have hpath : path = text := by simpa [Piece.text] using h.text.symm
    rw [hpath, ← ofLiteral_of_ne_nil (h.ne_nil_of_mem (List.mem_singleton_self _))]
    exact .rest (h.final text rfl)
  | .literal text :: .slot name :: pieces, path, h => by
    have hliteral : .literal text :: .slot name :: pieces
        = Piece.ofLiteral text ++ .slot name :: pieces := by
      rw [ofLiteral_of_ne_nil (h.ne_nil_of_mem List.mem_cons_self)]
      rfl
    rw [hliteral] at h ⊢
    obtain ⟨htext, hname, hpath, hrest⟩ := h.of_slot
    rw [hpath]
    exact .slot htext hname hrest.scanned
  | .literal _ :: .literal _ :: _, _, h =>
    absurd ⟨rfl, rfl⟩ (List.isChain_cons_cons.mp h.apart).1
  | .slot name :: pieces, path, h => by
    -- the literal in front of the first slot is empty
    have hfront : Cut path (Piece.ofLiteral [] ++ .slot name :: pieces) := h
    obtain ⟨htext, hname, hpath, hrest⟩ := hfront.of_slot
    rw [hpath]
    exact .slot htext hname hrest.scanned

/-- **A PATH HAS ONE PROPER CUT, AND IT IS SPLIT INTO IT.**  The placeholders of the path are the
names of the slots, in order. -/
theorem split_eq_iff_cut (path : String) :
    (∀ pieces, split path.toList = pieces ↔ Cut path.toList pieces) ∧
    placeholders path = slotNames (split path.toList) := by
  refine ⟨fun pieces => ⟨fun heq => ?_, fun hcut => ?_⟩, rfl⟩
  · rw [← heq]
    exact (scanned_split path.toList).cut
  · exact hcut.scanned.eq_split.symm

/-- A brace inside a name belongs to the name, and one that nothing closes to the last literal. -/
example : split "\x7d\x7b\x7ba\x7d\x7b\x7d/\x7bb\x7b".toList =
    [.literal ['\x7d'], .slot ['\x7b', 'a'], .slot [], .literal "/\x7bb\x7b".toList] := by
  decide +kernel

end ApiMethods.Path
