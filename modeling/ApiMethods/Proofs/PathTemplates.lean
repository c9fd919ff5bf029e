/-
  ApiMethods.Proofs.PathTemplates
  ───────────────────────────────
  **EVERY SLOT OF A PATH IS BACKED BY ONE ARGUMENT, AND EVERY ARGUMENT BY ONE SLOT.**

  Cutting a path loses nothing: the pieces, put one behind the other, are the path again, whatever
  braces stand in it (`flatMap_text_split`).  Binding goes piece by piece and keeps each of them,
  so a template has the placeholders of the path as its slots, and with every slot written in
  braces again it reads as the path does.

  When there is no template, the walk has stopped at the leftmost bad placeholder, or no placeholder
  is bad and an argument has none.  `FirstFault` says which fault is reported.
-/
import ApiMethods.Proofs.PathBinding

namespace ApiMethods.Path

/-! ## §1. The pieces of a path. -/

/-- What has been read of a placeholder that is not closed yet, in order. -/
def openText : Option (List Char) → List Char
  | none => []
  | some name => '\x7b' :: name.reverse

theorem flatMap_text_ofLiteral (text : List Char) :
    (Piece.ofLiteral text).flatMap Piece.text = text := by
  cases text <;> simp [Piece.ofLiteral, Piece.text]

/-- The pieces that are still to come continue what has been read. -/
theorem flatMap_text_splitFrom (cs : List Char) : ∀ (before : List Char) (inside : Option (List Char)),
    (splitFrom before inside cs).flatMap Piece.text = before.reverse ++ openText inside ++ cs := by
  induction cs with
  | nil =>
    intro before inside
    cases inside with
    | none => simp [splitFrom, openText, flatMap_text_ofLiteral]
    | some name => simp [splitFrom, openText, Piece.text]
  | cons c rest ih =>
    intro before inside
    cases inside with
    | none =>
      unfold splitFrom
      split
      · rename_i hopen
        rw [ih, hopen]
        simp [openText]
      · rw [ih]
        simp [openText]
    | some name =>
      unfold splitFrom
      split
      · rename_i hclose
        rw [List.flatMap_append, List.flatMap_cons, ih, flatMap_text_ofLiteral, hclose]
        simp [openText, Piece.text]
      · rw [ih]
        simp [openText]

/-- **CUTTING A PATH LOSES NOTHING.** -/
theorem flatMap_text_split (path : List Char) : (split path).flatMap Piece.text = path :=
  (flatMap_text_splitFrom path [] none).trans (List.nil_append _)

/-! ## §2. What binding yields. -/

/-- A segment binds a piece: it is the same text, or a slot for an argument with that name. -/
inductive Binds (args : List Argument) : Piece → Segment → Prop
  | literal (text : List Char) : Binds args (.literal text) (.literal (String.ofList text))
  | slot {name : List Char} {a : Argument} : a ∈ args → a.name = String.ofList name →
      Binds args (.slot name) (.slot a.name a.ident)

/-- **Run**: the segments bind the pieces one by one. -/
theorem forall₂_binds {args : List Argument} {pieces : List Piece} :
    ∀ {seen : List String} {segments : List Segment}, bind args seen pieces = .ok segments →
      List.Forall₂ (Binds args) pieces segments := by
  induction pieces with
  | nil =>
    intro seen segments h
    cases h
    exact .nil
  | cons p rest ih =>
    intro seen segments h
    cases p with
    | literal text =>
      obtain ⟨segments, hrest, rfl⟩ := map_eq_ok h
      exact .cons (.literal text) (ih hrest)
    | slot name =>
      simp only [bind] at h
      split at h
      · cases h
      · split at h
        · cases h
        · rename_i a ha
          obtain ⟨segments, hrest, rfl⟩ := map_eq_ok h
          have hname : a.name = String.ofList name := by simpa using List.find?_some ha
          exact .cons (.slot (List.mem_of_find?_eq_some ha) hname) (ih hrest)

/-- The slots are the placeholders, in order. -/
theorem filterMap_name?_of_binds {args : List Argument} {pieces : List Piece}
    {segments : List Segment} (h : List.Forall₂ (Binds args) pieces segments) :
    segments.filterMap Segment.name? = slotNames pieces := by
  induction h with
  | nil => rfl
  | cons hhead _ ih =>
    cases hhead with
    | literal text => exact ih
    | slot _ hname =>
      show _ :: _ = String.ofList _ :: slotNames _
      rw [ih, hname]

/-- A slot stands for an argument. -/
theorem exists_argument_of_slot {args : List Argument} {pieces : List Piece}
    {segments : List Segment} (h : List.Forall₂ (Binds args) pieces segments) {name : String}
    {ident : Name} (hslot : Segment.slot name ident ∈ segments) :
    ∃ a ∈ args, a.name = name ∧ a.ident = ident := by
  induction h with
  | nil => cases hslot
  | cons hhead _ ih =>
    rcases List.mem_cons.mp hslot with heq | hslot
    · cases hhead with
      | literal text => cases heq
      | slot ha _ =>
        cases heq
        exact ⟨_, ha, rfl, rfl⟩
    · exact ih hslot

/-- A placeholder in braces, as it stands in a path. -/
def inBraces (name : String) (_ : Name) : String := "\x7b" ++ name ++ "\x7d"

/-- With every slot in braces the segments read as the pieces do. -/
theorem toList_join_render_of_binds {args : List Argument} {pieces : List Piece}
    {segments : List Segment} (h : List.Forall₂ (Binds args) pieces segments) :
    (String.join (segments.map (Segment.render inBraces))).toList = pieces.flatMap Piece.text := by
  induction h with
  | nil => rfl
  | cons hhead _ ih =>
    rw [List.map_cons, String.join_cons, String.toList_append, ih, List.flatMap_cons]
    cases hhead with
    | literal text => simp [Segment.render, Piece.text]
    | slot _ hname => simp [Segment.render, inBraces, Piece.text, hname]

/-! ## §3. The fault that is reported. -/

/-- The fault of a path with some placeholders for arguments with some names.  It is that of the
    leftmost placeholder that stands further left already or names no argument; and only where there
    is no such placeholder, that of the first argument without one. -/
inductive FirstFault (slots names : List String) : SkipReason → Prop
  | duplicate {before after : List String} {name : String} : slots = before ++ name :: after →
      before.Nodup → (∀ n ∈ before, n ∈ names) → name ∈ before →
      FirstFault slots names (.duplicatePlaceholder name)
  | undeclared {before after : List String} {name : String} : slots = before ++ name :: after →
      before.Nodup → (∀ n ∈ before, n ∈ names) → name ∉ before → name ∉ names →
      FirstFault slots names (.undeclaredPlaceholder name)
  | unused {before after : List String} {name : String} : slots.Nodup → (∀ n ∈ slots, n ∈ names) →
      names = before ++ name :: after → (∀ n ∈ before, n ∈ slots) → name ∉ slots →
      FirstFault slots names (.unusedPathParameter name)

/-- What is wrong with a placeholder behind others. -/
theorem slotFaultAt?_append (before after names : List String) (name : String) :
    slotFaultAt? (before ++ name :: after) names (name, before.length) =
      if name ∈ before then some (.duplicatePlaceholder name)
      else if name ∉ names then some (.undeclaredPlaceholder name) else none := by
  unfold slotFaultAt?
  rw [List.take_left]

/-- A placeholder is found bad behind others that are not. -/
theorem slotFault?_eq_some {slots names : List String} {reason : SkipReason} :
    slotFault? slots names = some reason ↔ ∃ before name after, slots = before ++ name :: after ∧
      slotFault? before names = none ∧
      slotFaultAt? slots names (name, before.length) = some reason := by
  -- what stands left of a placeholder in front is the same among all placeholders
  have hfront : ∀ {before rest : List String}, slots = before ++ rest →
      ((∀ x ∈ before.zipIdx, slotFaultAt? slots names x = none) ↔
        slotFault? before names = none) := by
    rintro before rest rfl
    unfold slotFault?
    rw [List.findSome?_eq_none_iff]
    refine forall₂_congr fun ⟨name, i⟩ hx => ?_
    have hi : before[i]? = some name := List.mk_mem_zipIdx_iff_getElem?.mp hx
    have hle : i ≤ before.length := Nat.le_of_lt (List.getElem?_eq_some_iff.mp hi).1
    unfold slotFaultAt?
    rw [List.take_append_of_le_length hle]
  constructor
  · intro h
    obtain ⟨front, ⟨name, i⟩, back, hsplit, hat, hnone⟩ := List.findSome?_eq_some_iff.mp h
    obtain ⟨before, rest, hslots, rfl, hrest⟩ := List.zipIdx_eq_append_iff.mp hsplit
    obtain ⟨name', after, rfl, heq, -⟩ := List.zipIdx_eq_cons_iff.mp hrest.symm
    cases heq
    rw [Nat.zero_add] at hat
    exact ⟨before, name, after, hslots, (hfront hslots).mp hnone, hat⟩
  · rintro ⟨before, name, after, hslots, hnone, hat⟩
    refine List.findSome?_eq_some_iff.mpr
      ⟨before.zipIdx, (name, before.length), after.zipIdx (before.length + 1), ?_, hat,
        (hfront hslots).mpr hnone⟩
    rw [hslots, List.zipIdx_append, List.zipIdx_cons, Nat.zero_add]

theorem unusedFault?_eq_some {slots names : List String} {reason : SkipReason} :
    unusedFault? slots names = some reason ↔ ∃ before name after, names = before ++ name :: after ∧
      (∀ n ∈ before, n ∈ slots) ∧ name ∉ slots ∧ reason = .unusedPathParameter name := by
  unfold unusedFault?
  simp only [Option.map_eq_some_iff, List.find?_eq_some_iff_append]
  constructor
  · rintro ⟨name, ⟨hname, before, after, hnames, hbefore⟩, rfl⟩
    exact ⟨before, name, after, hnames, by simpa using hbefore, by simpa using hname, rfl⟩
  · rintro ⟨before, name, after, hnames, hbefore, hname, rfl⟩
    exact ⟨name, ⟨by simpa using hname, before, after, hnames, by simpa using hbefore⟩, rfl⟩

/-- **THE FAULT OF A PATH IS ITS FIRST ONE.** -/
theorem fault?_eq_some_iff {slots names : List String} {reason : SkipReason} :
    (slotFault? slots names).or (unusedFault? slots names) = some reason ↔
      FirstFault slots names reason := by
  rw [Option.or_eq_some_iff, slotFault?_eq_some, unusedFault?_eq_some, slotFault?_eq_none]
  constructor
  · rintro (⟨before, name, after, hslots, hnone, hat⟩ |
      ⟨⟨hdistinct, hdeclared⟩, before, name, after, hnames, hbefore, hname, rfl⟩)
    · obtain ⟨hdistinct, hdeclared⟩ := slotFault?_eq_none.mp hnone
      rw [hslots, slotFaultAt?_append] at hat
      split at hat
      · rename_i hseen
        cases hat
        exact .duplicate hslots hdistinct hdeclared hseen
      · rename_i hnew
        split at hat
        · rename_i hname
          cases hat
          exact .undeclared hslots hdistinct hdeclared hnew hname
        · cases hat
    · exact .unused hdistinct hdeclared hnames hbefore hname
  · intro h
    cases h with
    | @duplicate before after name hslots hdistinct hdeclared hseen =>
      refine .inl ⟨before, name, after, hslots, slotFault?_eq_none.mpr ⟨hdistinct, hdeclared⟩, ?_⟩
      rw [hslots, slotFaultAt?_append, if_pos hseen]
    | @undeclared before after name hslots hdistinct hdeclared hnew hname =>
      refine .inl ⟨before, name, after, hslots, slotFault?_eq_none.mpr ⟨hdistinct, hdeclared⟩, ?_⟩
      rw [hslots, slotFaultAt?_append, if_neg hnew, if_pos hname]
    | @unused before after name hdistinct hdeclared hnames hbefore hname =>
      exact .inr ⟨⟨hdistinct, hdeclared⟩, before, name, after, hnames, hbefore, hname, rfl⟩

/-! ## §4. Templates. -/

/-- What a template is for a path and its arguments: it keeps the path, its slots are the
    placeholders and, in some order, the arguments, each with the identifier of its own, and with
    the slots in braces it reads as the path. -/
structure Template.Fits (path : String) (args : List Argument) (t : Template) : Prop where
  raw : t.raw = path
  slots : t.slots = placeholders path
  perm : t.slots.Perm (args.map (·.name))
  ident : ∀ name ident, Segment.slot name ident ∈ t.segments →
    ∃ a ∈ args, a.name = name ∧ a.ident = ident
  render : t.render inBraces = path

/-- There is a template when the placeholders are distinct and are the names of the arguments. -/
theorem exists_template_iff (path : String) (args : List Argument) :
    (∃ t, template path args = .ok t) ↔
      (placeholders path).Nodup ∧ ∀ n, n ∈ placeholders path ↔ n ∈ args.map (·.name) := by
  rw [← fault?_eq_none, fault?_template, Option.or_eq_none_iff, slotFault?_eq_none,
    unusedFault?_eq_none]
  constructor
  · rintro ⟨⟨hdistinct, hdeclared⟩, hused⟩
    exact ⟨hdistinct, fun n => ⟨hdeclared n, hused n⟩⟩
  · rintro ⟨hdistinct, hsame⟩
    exact ⟨⟨hdistinct, fun n => (hsame n).mp⟩, fun n => (hsame n).mpr⟩

/-- The segments of a template bind the pieces of its path. -/
theorem binds_of_template {path : String} {args : List Argument} {t : Template}
    (h : template path args = .ok t) :
    List.Forall₂ (Binds args) (split path.toList) t.segments := by
  obtain ⟨segments, hsegments, h⟩ := bind_eq_ok h
  split at h
  · cases h
  · cases h
    exact forall₂_binds hsegments

/-- **A TEMPLATE FITS ITS PATH AND ITS ARGUMENTS.** -/
theorem fits_of_template {path : String} {args : List Argument} {t : Template}
    (hnames : (args.map (·.name)).Nodup) (h : template path args = .ok t) :
    t.Fits path args := by
  have hbinds := binds_of_template h
  obtain ⟨hdistinct, hsame⟩ := (exists_template_iff path args).mp ⟨t, h⟩
  have hslots : t.slots = placeholders path := filterMap_name?_of_binds hbinds
  refine ⟨raw_of_template h, hslots, ?_, fun name ident => exists_argument_of_slot hbinds, ?_⟩
  · rw [hslots]
    exact (List.perm_ext_iff_of_nodup hdistinct hnames).mpr hsame
  · refine String.toList_inj.mp ?_
    rw [← flatMap_text_split path.toList]
    exact toList_join_render_of_binds hbinds

/-- **PATHS AND ARGUMENTS MATCH ONE TO ONE.**  For arguments with distinct names there is a template
exactly when the placeholders are distinct and are these names; it fits; and when there is none,
the first fault is reported. -/
theorem template_matches (path : String) (args : List Argument)
    (h : (args.map (·.name)).Nodup) :
    ((∃ t, template path args = .ok t) ↔
      (placeholders path).Nodup ∧ ∀ n, n ∈ placeholders path ↔ n ∈ args.map (·.name)) ∧
    (∀ t, template path args = .ok t → t.Fits path args) ∧
    ∀ reason, template path args = .error reason ↔
      FirstFault (placeholders path) (args.map (·.name)) reason := by
  refine ⟨exists_template_iff path args, fun t => fits_of_template h, fun reason => ?_⟩
  rw [← fault?_eq_some, fault?_template, fault?_eq_some_iff]

/-- A path with a stray brace, a brace inside a placeholder, and a brace that nothing closes. -/
def bracesPath : String := "/é\x7bx\x7d\x7d\x7b\x7by\x7d\x7bz"

/-- An argument for a text in a path. -/
def textArgument (name : String) : Argument :=
  .ofTyped { name := name, location := .known .path } .path .string

/-- Two arguments, in another order than their placeholders. -/
def bracesArguments : List Argument := [textArgument "\x7by", textArgument "x"]

/-- Both arguments are bound, and the template reads as the path; without the second argument the
    first placeholder is at fault. -/
theorem template_matches_braces :
    (bracesArguments.map (·.name)).Nodup ∧ placeholders bracesPath = ["x", "\x7by"] ∧
    (∃ t, template bracesPath bracesArguments = .ok t ∧ t.Fits bracesPath bracesArguments) ∧
    template bracesPath [textArgument "\x7by"] = .error (.undeclaredPlaceholder "x") := by
  have hnames : (bracesArguments.map (·.name)).Nodup := by decide
  have hslots : placeholders bracesPath = ["x", "\x7by"] := by decide +kernel
  obtain ⟨hexists, hfits, -⟩ := template_matches bracesPath bracesArguments hnames
  obtain ⟨t, ht⟩ := hexists.mpr (by
    rw [hslots]
    exact ⟨by decide, by simp [bracesArguments, textArgument, Argument.ofTyped, or_comm]⟩)
  obtain ⟨-, -, hfault⟩ := template_matches bracesPath [textArgument "\x7by"] (by decide)
  refine ⟨hnames, hslots, ⟨t, ht, hfits t ht⟩, (hfault _).mpr ?_⟩
  rw [hslots]
  exact .undeclared (List.nil_append _).symm List.nodup_nil nofun nofun (by decide)

end ApiMethods.Path
