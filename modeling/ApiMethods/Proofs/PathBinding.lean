/-
  ApiMethods.Proofs.PathBinding
  ─────────────────────────────
  **WHICH PATHS CAN BE BOUND TO WHICH ARGUMENTS.**

  Binding walks over the pieces of a path with the placeholders seen so far.  Here the walk is
  read off the list of all placeholders: it stops at the leftmost one that stands further left
  already or is the name of no argument (`slotFault?`).  When it does not stop, the first
  argument that no placeholder names decides (`unusedFault?`).  There is no fault at all when
  the placeholders are distinct and are the names of the arguments.
-/
import Mathlib.Data.List.Nodup
import ApiMethods.Path.Template
import ApiMethods.Proofs.Stages

namespace ApiMethods.Path

/-! ## §1. The faults of a path. -/

/-- What is wrong with the placeholder at a position, given all placeholders and the names of the
    arguments. -/
def slotFaultAt? (slots names : List String) (slot : String × Nat) : Option SkipReason :=
  if slot.1 ∈ slots.take slot.2 then some (.duplicatePlaceholder slot.1)
  else if slot.1 ∉ names then some (.undeclaredPlaceholder slot.1)
  else none

/-- What is wrong with the leftmost placeholder that is repeated or undeclared. -/
def slotFault? (slots names : List String) : Option SkipReason :=
  slots.zipIdx.findSome? (slotFaultAt? slots names)

/-- What is wrong with the first argument without a placeholder. -/
def unusedFault? (slots names : List String) : Option SkipReason :=
  (names.find? (· ∉ slots)).map .unusedPathParameter

theorem slotFault?_eq_none {slots names : List String} :
    slotFault? slots names = none ↔ slots.Nodup ∧ ∀ n ∈ slots, n ∈ names := by
  have hat : ∀ n i, slotFaultAt? slots names (n, i) = none ↔ n ∉ slots.take i ∧ n ∈ names := by
    intro n i
    unfold slotFaultAt?
    by_cases hseen : n ∈ slots.take i <;> by_cases hname : n ∈ names <;> simp [hseen, hname]
  unfold slotFault?
  rw [List.findSome?_eq_none_iff, List.nodup_iff_getElem?_ne_getElem?]
  constructor
  · intro h
    have hpos : ∀ n i, slots[i]? = some n → n ∉ slots.take i ∧ n ∈ names := fun n i hi =>
      (hat n i).mp (h (n, i) (List.mk_mem_zipIdx_iff_getElem?.mpr hi))
    refine ⟨fun i j hij hj heq => ?_, fun n hn => ?_⟩
    · -- the earlier of two equal placeholders stands left of the later one
      have hjn : slots[j]? = some slots[j] := List.getElem?_eq_getElem hj
      refine (hpos _ j hjn).1 (List.mem_take_iff_getElem.mpr ⟨i, by omega, ?_⟩)
      have hin : slots[i]? = some slots[j] := heq.trans hjn
      exact (List.getElem?_eq_some_iff.mp hin).2
    · obtain ⟨i, hi⟩ := List.getElem?_of_mem hn
      exact (hpos n i hi).2
  · rintro ⟨hdistinct, hnames⟩ ⟨n, i⟩ hmem
    have hi : slots[i]? = some n := List.mk_mem_zipIdx_iff_getElem?.mp hmem
    refine (hat n i).mpr ⟨fun hseen => ?_, hnames n (List.mem_of_getElem? hi)⟩
    obtain ⟨j, hj, hjn⟩ := List.mem_take_iff_getElem.mp hseen
    have hlt : i < slots.length := (List.getElem?_eq_some_iff.mp hi).1
    -- a placeholder that stands further left stands there twice
    refine hdistinct j i (by omega) hlt ?_
    rw [hi]
    exact List.getElem?_eq_some_iff.mpr ⟨by omega, hjn⟩

theorem unusedFault?_eq_none {slots names : List String} :
    unusedFault? slots names = none ↔ ∀ n ∈ names, n ∈ slots := by
  simp [unusedFault?]

/-! ## §2. The walk. -/

/-- The names of the placeholders among some pieces. -/
def slotNames (pieces : List Piece) : List String :=
  pieces.filterMap fun p => p.name?.map String.ofList

/-! The steps of the walk at a placeholder: it stands further left, or it is the name of no argument,
    or it is bound and the walk goes on behind it. -/

theorem bind_slot_of_seen (args : List Argument) {seen : List String} {name : List Char}
    (rest : List Piece) (h : String.ofList name ∈ seen) :
    bind args seen (.slot name :: rest) = .error (.duplicatePlaceholder (String.ofList name)) := by
  simp only [bind, if_pos h]

theorem bind_slot_of_undeclared {args : List Argument} {seen : List String} {name : List Char}
    (rest : List Piece) (hseen : String.ofList name ∉ seen)
    (h : String.ofList name ∉ args.map (·.name)) :
    bind args seen (.slot name :: rest) = .error (.undeclaredPlaceholder (String.ofList name)) := by
  have hfind : args.find? (·.name = String.ofList name) = none := by
    refine List.find?_eq_none.mpr fun a ha hname => h ?_
    exact List.mem_map.mpr ⟨a, ha, of_decide_eq_true hname⟩
  simp only [bind, if_neg hseen, hfind]

theorem fault?_bind_slot {args : List Argument} {seen : List String} {name : List Char}
    (rest : List Piece) (hseen : String.ofList name ∉ seen)
    (h : String.ofList name ∈ args.map (·.name)) :
    fault? (bind args seen (.slot name :: rest))
      = fault? (bind args (String.ofList name :: seen) rest) := by
  obtain ⟨a, ha, hname⟩ := List.mem_map.mp h
  obtain ⟨a', ha'⟩ : ∃ a', args.find? (·.name = String.ofList name) = some a' := by
    rw [← Option.isSome_iff_exists, List.find?_isSome]
    exact ⟨a, ha, decide_eq_true hname⟩
  simp only [bind, if_neg hseen, ha', fault?_map]

/-- **Run**: behind the placeholders in `before`, the walk stops at the leftmost of the others that
    has a fault.  `seen` holds what stands in `before`, in some order. -/
theorem fault?_bind_pieces (args : List Argument) (pieces : List Piece) :
    ∀ seen before : List String, (∀ n, n ∈ seen ↔ n ∈ before) →
      fault? (bind args seen pieces) =
        ((slotNames pieces).zipIdx before.length).findSome?
          (slotFaultAt? (before ++ slotNames pieces) (args.map (·.name))) := by
  induction pieces with
  | nil => exact fun _ _ _ => rfl
  | cons p rest ih =>
    intro seen before hseen
    cases p with
    | literal text => exact (fault?_map _ _).trans (ih seen before hseen)
    | slot name =>
      have hslots : slotNames (.slot name :: rest) = String.ofList name :: slotNames rest := rfl
      have hat : slotFaultAt? (before ++ String.ofList name :: slotNames rest)
          (args.map (·.name)) (String.ofList name, before.length) =
            if String.ofList name ∈ before then some (.duplicatePlaceholder (String.ofList name))
            else if String.ofList name ∉ args.map (·.name) then
              some (.undeclaredPlaceholder (String.ofList name)) else none := by
        simp [slotFaultAt?]
      rw [hslots, List.zipIdx_cons, List.findSome?_cons, hat]
      -- the walk and the scan over all placeholders ask the same two questions here
      by_cases hmem : String.ofList name ∈ before
      · rw [bind_slot_of_seen args rest ((hseen _).mpr hmem), if_pos hmem]
        rfl
      · have hnew : String.ofList name ∉ seen := mt (hseen _).mp hmem
        rw [if_neg hmem]
        by_cases hname : String.ofList name ∈ args.map (·.name)
        · rw [fault?_bind_slot rest hnew hname, if_neg (not_not.mpr hname),
            ih (String.ofList name :: seen) (before ++ [String.ofList name])
              (by simp [hseen, or_comm])]
          simp
        · rw [bind_slot_of_undeclared rest hnew hname, if_pos hname]
          rfl

/-- A template keeps the path that it was made of. -/
theorem raw_of_template {path : String} {args : List Argument} {t : Template}
    (h : template path args = .ok t) : t.raw = path := by
  obtain ⟨segments, -, h⟩ := bind_eq_ok h
  split at h
  · cases h
  · cases h
    rfl

/-- **A PATH FAILS AT ITS LEFTMOST BAD PLACEHOLDER**, and otherwise at the first argument that has
none. -/
theorem fault?_template (path : String) (args : List Argument) :
    fault? (template path args) =
      (slotFault? (placeholders path) (args.map (·.name))).or
        (unusedFault? (placeholders path) (args.map (·.name))) := by
  refine fault?_bind ?_ fun segments _ => ?_
  · exact fault?_bind_pieces args (split path.toList) [] [] (fun _ => Iff.rfl)
  · have hfind : (args.map (·.name)).find? (· ∉ placeholders path)
        = (args.find? (·.name ∉ placeholders path)).map (·.name) := List.find?_map
    rw [unusedFault?, hfind]
    cases args.find? (·.name ∉ placeholders path) <;> rfl

end ApiMethods.Path
