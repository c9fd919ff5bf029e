/-
  ApiMethods.Proofs.Pointers
  ──────────────────────────
  **A POINTER CAN BE READ BACK.**

  A step of a pointer never contains a slash, so cutting a pointer at its slashes gives its
  steps; and a step is read back by undoing the two escapes in the right order, slashes before
  tildes.  So different keys lead to different pointers (`ofKeys_injective`), and a longer
  pointer goes on where the shorter one ends (`ofKeys_append`).
-/
import ApiMethods.Reference.Pointer

namespace ApiMethods.Reference.Pointer

open ApiMethods.Text (splitOn splitOn_of_not_mem splitOn_append_cons)

/-! ## §1. One step. -/

theorem slash_not_mem_escape (key : String) : '/' ∉ escape key := by
  intro h
  obtain ⟨c, -, hc⟩ := List.mem_flatMap.mp h
  unfold escapeChar at hc
  split at hc
  · exact absurd hc (by decide)
  · split at hc
    · exact absurd hc (by decide)
    · rename_i hslash
      exact hslash (List.mem_singleton.mp hc).symm

/-- A character with only its tilde escaped. -/
def escapeTilde (c : Char) : List Char := if c = '~' then ['~', '0'] else [c]

/-- A character with only its slash escaped. -/
def escapeSlash (c : Char) : List Char := if c = '/' then ['~', '1'] else [c]

/-- A key may as well be escaped in two passes, tildes before slashes. -/
theorem escape_eq_passes (key : String) :
    escape key = (key.toList.flatMap escapeTilde).flatMap escapeSlash := by
  have hchar : escapeChar = fun c => (escapeTilde c).flatMap escapeSlash := by
    funext c
    by_cases htilde : c = '~'
    · subst htilde
      rfl
    · unfold escapeChar escapeTilde
      rw [if_neg htilde, if_neg htilde]
      simp [escapeSlash]
  unfold escape
  rw [hchar, List.flatMap_assoc]

theorem restoreSlashes_cons {c : Char} (h : c ≠ '~') (cs : List Char) :
    restoreSlashes (c :: cs) = c :: restoreSlashes cs := by
  cases cs with
  | nil => simp [restoreSlashes]
  | cons d rest => simp [restoreSlashes, h]

theorem restoreTildes_cons {c : Char} (h : c ≠ '~') (cs : List Char) :
    restoreTildes (c :: cs) = c :: restoreTildes cs := by
  cases cs with
  | nil => simp [restoreTildes]
  | cons d rest => simp [restoreTildes, h]

/-- Once slashes are restored, the tildes are still escaped. -/
theorem restoreSlashes_flatMap_escapeChar (cs : List Char) :
    restoreSlashes (cs.flatMap escapeChar) = cs.flatMap escapeTilde := by
  induction cs with
  | nil => rfl
  | cons c rest ih =>
    rw [List.flatMap_cons, List.flatMap_cons, ← ih]
    by_cases htilde : c = '~'
    · subst htilde
      show '~' :: restoreSlashes ('0' :: rest.flatMap escapeChar) = _
      rw [restoreSlashes_cons (by decide)]
      rfl
    · by_cases hslash : c = '/'
      · subst hslash
        rfl
      · rw [show escapeChar c = [c] by simp [escapeChar, htilde, hslash],
          show escapeTilde c = [c] from if_neg htilde]
        exact restoreSlashes_cons htilde _

theorem restoreTildes_flatMap_escapeTilde (cs : List Char) :
    restoreTildes (cs.flatMap escapeTilde) = cs := by
  induction cs with
  | nil => rfl
  | cons c rest ih =>
    rw [List.flatMap_cons]
    by_cases htilde : c = '~'
    · subst htilde
      show '~' :: restoreTildes (rest.flatMap escapeTilde) = _
      rw [ih]
    · rw [show escapeTilde c = [c] from if_neg htilde]
      show restoreTildes (c :: rest.flatMap escapeTilde) = _
      rw [restoreTildes_cons htilde, ih]

/-- A step is read back as its key. -/
theorem unescape_escape (key : String) : unescape (escape key) = key := by
  unfold unescape escape
  rw [restoreSlashes_flatMap_escapeChar, restoreTildes_flatMap_escapeTilde]
  exact String.ofList_toList

/-! ## §2. All steps. -/

/-- Cutting at slashes gives the steps. -/
theorem splitOn_steps (key : String) (keys : List String) :
    splitOn '/' (escape key ++ keys.flatMap fun key => '/' :: escape key)
      = (key :: keys).map escape := by
  induction keys generalizing key with
  | nil =>
    rw [List.flatMap_nil, List.append_nil]
    exact splitOn_of_not_mem (slash_not_mem_escape key)
  | cons next rest ih =>
    rw [List.flatMap_cons, List.cons_append, splitOn_append_cons (slash_not_mem_escape key), ih]
    rfl

/-- **A POINTER IS READ BACK AS ITS KEYS.** -/
theorem decode?_ofKeys (keys : List String) : decode? (ofKeys keys) = some keys := by
  unfold decode? ofKeys
  rw [String.toList_ofList]
  cases keys with
  | nil => rfl
  | cons key rest =>
    show some ((splitOn '/' (escape key ++ rest.flatMap _)).map unescape) = _
    rw [splitOn_steps, List.map_map]
    have hid : (key :: rest).map (unescape ∘ escape) = key :: rest :=
      (List.map_congr_left fun k _ => unescape_escape k).trans (List.map_id _)
    rw [hid]

/-- Different keys lead to different pointers. -/
theorem ofKeys_injective {keys keys' : List String} (h : ofKeys keys = ofKeys keys') :
    keys = keys' := by
  have hdecode := congrArg decode? h
  rw [decode?_ofKeys, decode?_ofKeys] at hdecode
  exact Option.some.inj hdecode

/-- One more key goes behind the pointer. -/
theorem ofKeys_append (keys : List String) (key : String) :
    ofKeys (keys ++ [key]) = ofKeys keys ++ String.ofList ('/' :: escape key) := by
  unfold ofKeys
  rw [List.flatMap_append, List.flatMap_singleton, ← String.ofList_append]
  rfl

end ApiMethods.Reference.Pointer
