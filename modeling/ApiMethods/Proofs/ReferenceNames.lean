/-
  ApiMethods.Proofs.ReferenceNames
  ────────────────────────────────
  **WHICH TEXTS ARE REFERENCES, AND TO WHAT.**

  A reference names a definition in one of five sections, and each section is written in two ways,
  that of the schemas in four:

      #/components/schemas/Pet        #/schemas/Pet
      #/components/definitions/Pet    #/definitions/Pet
      #/components/parameters/limit   #/parameters/limit     ...

  A text is cut behind its beginning, at the first slash.  The beginning `#/` is also the front of the
  longer one, so a short form could be taken for a long one; this happens only where the section is
  called `components`, and no section is (`split?_eq_some_iff`).  So a reference is accepted exactly
  when it is written in one of these ways (`nameIn_eq_ok_iff`), and it has one section and one name.
-/
import ApiMethods.Reference.Name
import ApiMethods.Text.Split

namespace ApiMethods.Reference

open ApiMethods.Text (span_append_cons append_cons_inj)

/-! ## §1. Sections. -/

/-- The sections in which definitions are looked up. -/
inductive Section
  | schemas
  | parameters
  | requestBodies
  | responses
  | headers
deriving Repr, DecidableEq

namespace Section

/-- The name by which a section is asked for. -/
def key : Section → String
  | schemas => "schemas"
  | parameters => "parameters"
  | requestBodies => "requestBodies"
  | responses => "responses"
  | headers => "headers"

/-- The names that a section has in references. -/
def names : Section → List String
  | schemas => ["schemas", "definitions"]
  | s => [s.key]

theorem holds_key_iff (s : Section) (found : String) : holds s.key found = true ↔ found ∈ s.names := by
  simp only [holds, Bool.or_eq_true, Bool.and_eq_true, decide_eq_true_eq]
  cases s <;> simp [key, names]

/-- The name of a section can be told from what surrounds it in a reference. -/
theorem slash_not_mem_names {s : Section} {found : String} (h : found ∈ s.names) :
    '/' ∉ found.toList ∧ found.toList ≠ "components".toList := by
  have hall : ∀ found ∈ s.names, '/' ∉ found.toList ∧ found.toList ≠ "components".toList := by
    cases s <;> decide
  exact hall found h

/-- No two sections share a name. -/
theorem eq_of_mem_names {s s' : Section} {found : String} (h : found ∈ s.names)
    (h' : found ∈ s'.names) : s = s' := by
  have hall : ∀ found ∈ s.names, found ∈ s'.names → s = s' := by
    cases s <;> cases s' <;> decide
  exact hall found h h'

end Section

/-- A text is a reference to a name in a section: the name is a step of its own, and it is written
    behind one of the names of the section and one of the two beginnings. -/
def PointsAt (s : Section) (name target : String) : Prop :=
  name ≠ "" ∧ '/' ∉ name.toList ∧
    ∃ found ∈ s.names,
      target = "#/components/" ++ found ++ "/" ++ name ∨ target = "#/" ++ found ++ "/" ++ name

/-! ## §2. Cutting a reference. -/

theorem after?_append (beginning rest : List Char) :
    after? beginning (beginning ++ rest) = some rest := by
  unfold after?
  rw [if_pos (List.isPrefixOf_iff_prefix.mpr (List.prefix_append beginning rest)), List.drop_left]

/-- A short form does not begin as a long one does. -/
theorem after?_components_of_ne {found : List Char} (hslash : '/' ∉ found)
    (hne : found ≠ "components".toList) (name : List Char) :
    after? componentsStart.toList (rootStart.toList ++ (found ++ '/' :: name)) = none := by
  have hlong : componentsStart.toList = rootStart.toList ++ ("components".toList ++ ['/']) := by
    decide
  rw [Option.eq_none_iff_forall_ne_some]
  intro rest hrest
  have heq := eq_of_after? hrest
  rw [hlong, List.append_assoc, List.append_cancel_left_eq, List.append_assoc,
    List.singleton_append, append_cons_inj hslash (by decide)] at heq
  exact hne heq.1

/-- **A REFERENCE IS CUT IN ONE WAY.** -/
theorem split?_eq_some_iff {cs found name : List Char} (hslash : '/' ∉ found)
    (hcomponents : found ≠ "components".toList) :
    split? cs = some (found, name) ↔
      cs = componentsStart.toList ++ found ++ '/' :: name ∨
        cs = rootStart.toList ++ found ++ '/' :: name := by
  constructor
  · exact eq_of_split?
  · intro h
    have hrest : (after? componentsStart.toList cs).or (after? rootStart.toList cs)
        = some (found ++ '/' :: name) := by
      rcases h with rfl | rfl
      · rw [List.append_assoc, after?_append]
        rfl
      · rw [List.append_assoc, after?_components_of_ne hslash hcomponents, after?_append]
        rfl
    obtain ⟨htake, hdrop⟩ := span_append_cons hslash name
    unfold split?
    simp only [hrest, Option.bind_eq_bind, Option.bind_some, htake, hdrop]

/-! ## §3. Names. -/

/-- A text names something in a section when it can be cut into a name of the section and a name. -/
theorem nameIn_eq_ok_iff_split? {expected target name : String} :
    nameIn expected target = .ok name ↔
      ∃ found, split? target.toList = some (found, name.toList) ∧
        holds expected (String.ofList found) = true ∧ name ≠ "" ∧ '/' ∉ name.toList := by
  unfold nameIn
  constructor
  · intro h
    split at h
    · cases h
    · rename_i found rest hsplit
      split at h
      · rename_i hok
        cases h
        refine ⟨found, ?_, hok.1, ?_, ?_⟩
        · rw [String.toList_ofList]
          exact hsplit
        · intro hempty
          apply hok.2.1
          rw [← String.toList_ofList (l := rest), hempty]
          rfl
        · rw [String.toList_ofList]
          exact hok.2.2
      · cases h
  · rintro ⟨found, hsplit, hholds, hne, hslash⟩
    have hne : name.toList ≠ [] := by simpa using hne
    rw [hsplit]
    dsimp only
    rw [if_pos ⟨hholds, hne, hslash⟩, String.ofList_toList]

/-- **THE REFERENCES THAT ARE ACCEPTED ARE THE ONES THAT ARE WRITTEN SO.** -/
theorem nameIn_key_eq_ok_iff (s : Section) (target name : String) :
    nameIn s.key target = .ok name ↔ PointsAt s name target := by
  rw [nameIn_eq_ok_iff_split?]
  constructor
  · rintro ⟨found, hsplit, hholds, hne, hslash⟩
    refine ⟨hne, hslash, String.ofList found, (s.holds_key_iff _).mp hholds, ?_⟩
    simpa [← String.toList_inj, componentsStart, rootStart] using eq_of_split? hsplit
  · rintro ⟨hne, hslash, found, hfound, htarget⟩
    obtain ⟨hfoundslash, hcomponents⟩ := Section.slash_not_mem_names hfound
    refine ⟨found.toList, ?_, ?_, hne, hslash⟩
    · rw [split?_eq_some_iff hfoundslash hcomponents]
      simpa [← String.toList_inj, componentsStart, rootStart] using htarget
    · rw [String.ofList_toList]
      exact (s.holds_key_iff found).mpr hfound

/-! ## §4. Sections and names of a text. -/

/-- A text points at one name in one section. -/
theorem PointsAt.unique {s s' : Section} {name name' target : String} (h : PointsAt s name target)
    (h' : PointsAt s' name' target) : s = s' ∧ name = name' := by
  obtain ⟨found, hsplit, hholds, -⟩ :=
    nameIn_eq_ok_iff_split?.mp ((nameIn_key_eq_ok_iff s target name).mpr h)
  obtain ⟨found', hsplit', hholds', -⟩ :=
    nameIn_eq_ok_iff_split?.mp ((nameIn_key_eq_ok_iff s' target name').mpr h')
  -- both have been cut from the same text
  have hsame : (found, name.toList) = (found', name'.toList) :=
    Option.some.inj (hsplit.symm.trans hsplit')
  obtain ⟨hfound, hname⟩ := Prod.mk.inj hsame
  rw [← hfound] at hholds'
  constructor
  · exact Section.eq_of_mem_names ((s.holds_key_iff _).mp hholds) ((s'.holds_key_iff _).mp hholds')
  · exact String.toList_inj.mp hname

/-- The message of a malformed reference says that its form is invalid. -/
theorem exists_message_eq (e : Malformed) :
    ∃ detail, e.message = "invalid reference format: " ++ detail := by
  cases e with
  | shape target => exact ⟨target, rfl⟩
  | wrongSection expected found target =>
    have hstart : "invalid reference format: expected section '"
        = "invalid reference format: " ++ "expected section '" := by decide +kernel
    refine ⟨"expected section '" ++ expected ++ "', got '" ++ found ++ "' in " ++ target, ?_⟩
    unfold Malformed.message
    rw [hstart]
    simp only [String.append_assoc]

/-- **A TEXT IS A REFERENCE TO ONE NAME IN ONE SECTION, OR MALFORMED.**  Asked for the name in a
section, it yields one exactly when it points at the name in that section, and every other text is
malformed; and it points at one name in one section. -/
theorem nameIn_iff_pointsAt (target : String) :
    (∀ (s : Section) (name : String), nameIn s.key target = .ok name ↔ PointsAt s name target) ∧
    (∀ s : Section, (¬ ∃ name, PointsAt s name target) ↔
      ∃ e detail, nameIn s.key target = .error e ∧
        e.message = "invalid reference format: " ++ detail) ∧
    ∀ (s s' : Section) (name name' : String), PointsAt s name target → PointsAt s' name' target →
      s = s' ∧ name = name' := by
  refine ⟨fun s name => nameIn_key_eq_ok_iff s target name, fun s => ?_, fun _ _ _ _ => PointsAt.unique⟩
  constructor
  · intro hnone
    cases hread : nameIn s.key target with
    | ok name => exact absurd ⟨name, (nameIn_key_eq_ok_iff s target name).mp hread⟩ hnone
    | error e =>
      obtain ⟨detail, hmessage⟩ := exists_message_eq e
      exact ⟨e, detail, rfl, hmessage⟩
  · rintro ⟨e, detail, hread, -⟩ ⟨name, hpoints⟩
    rw [(nameIn_key_eq_ok_iff s target name).mpr hpoints] at hread
    cases hread

/-- A definition may be called `components`; a section may not, and a pointer goes no deeper. -/
example :
    name? "schemas" "#/components/schemas/components" = some "components" ∧
    name? "schemas" "#/components/components/schemas/Pet" = none ∧
    name? "schemas" "#/components/Pet" = none ∧
    name? "schemas" "#/definitions/Pet/properties" = none := by
  decide +kernel

end ApiMethods.Reference
