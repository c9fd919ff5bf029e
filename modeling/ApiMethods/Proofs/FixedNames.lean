/-
  ApiMethods.Proofs.FixedNames
  ────────────────────────────
  **AN IDENTIFIER MADE FROM AN ID STAYS WHAT IT IS.**

  An id loses the white space at its ends, and then every character stands for one:

      an ASCII letter, an ASCII digit, `_`     stays,
      every other character                    becomes `_`,
      a digit in front                         is guarded by one more `_`.

  `Made` says this of what is left of the id, and `identifier?_eq_some_iff` says that nothing else
  happens to an id with an ASCII letter or digit.  An identifier with an ASCII letter or digit has
  nothing to lose, so it is what it makes (`identifier?_eq_self_iff`): made identifiers are fixed,
  and with them the ids that operations declare and the aliases that are made identifiers already.
-/
import ApiMethods.Proofs.MethodNames
import Mathlib.Data.List.Forall2

namespace ApiMethods

namespace Name

/-! ## §1. Character by character. -/

/-- What a character of an id stands for in the identifier. -/
inductive Stands : Char → Char → Prop
  | same {c : Char} : c.isAlphanum = true ∨ c = '_' → Stands c c
  | replaced {c : Char} : c.isAlphanum = false → c ≠ '_' → Stands c '_'

theorem isIdentifierChar_iff {c : Char} :
    isIdentifierChar c = true ↔ c.isAlphanum = true ∨ c = '_' := by
  simp [isIdentifierChar]

theorem stands_iff {c d : Char} : Stands c d ↔ identifierChar c = d := by
  unfold identifierChar
  split
  · rename_i hc
    constructor
    · intro h
      cases h with
      | same => rfl
      | replaced halnum hne =>
        rcases isIdentifierChar_iff.mp hc with h | h
        · rw [halnum] at h
          cases h
        · exact absurd h hne
    · rintro rfl
      exact .same (isIdentifierChar_iff.mp hc)
  · rename_i hc
    rw [isIdentifierChar_iff, not_or, Bool.not_eq_true] at hc
    constructor
    · intro h
      cases h with
      | same h => exact absurd h (not_or.mpr ⟨by simp [hc.1], hc.2⟩)
      | replaced => rfl
    · rintro rfl
      exact .replaced hc.1 hc.2

/-- The characters that the characters of a text stand for. -/
theorem forall₂_stands_iff {t body : List Char} :
    List.Forall₂ Stands t body ↔ t.map identifierChar = body := by
  have hstands : Stands = fun c d => identifierChar c = d := by
    funext c d
    exact propext stands_iff
  rw [hstands, ← List.forall₂_map_left_iff (R := (· = ·)), List.forall₂_eq_eq_eq]

/-- A digit stands for itself, and nothing else stands for a digit. -/
theorem isDigit_identifierChar (c : Char) : (identifierChar c).isDigit = c.isDigit := by
  unfold identifierChar
  split
  · rfl
  · rename_i hc
    cases hdigit : c.isDigit with
    | false => rfl
    | true => exact absurd (by simp [isIdentifierChar, Char.isAlphanum, hdigit]) hc

/-! ## §2. What an id makes. -/

/-- What an id makes that has no white space at its ends. -/
inductive Made (t : List Char) : List Char → Prop
  | plain {body : List Char} : List.Forall₂ Stands t body →
      (∀ c ∈ t.head?, c.isDigit = false) → Made t body
  | guarded {body : List Char} : List.Forall₂ Stands t body →
      (∃ c ∈ t.head?, c.isDigit = true) → Made t ('_' :: body)

theorem guardDigit_of_digit {t : List Char} (h : ∃ c ∈ t.head?, c.isDigit = true) :
    guardDigit (t.map identifierChar) = '_' :: t.map identifierChar := by
  obtain ⟨c, hc, hdigit⟩ := h
  obtain ⟨rest, rfl⟩ := List.head?_eq_some_iff.mp hc
  exact if_pos ((isDigit_identifierChar c).trans hdigit)

theorem guardDigit_of_not_digit {t : List Char} (h : ∀ c ∈ t.head?, c.isDigit = false) :
    guardDigit (t.map identifierChar) = t.map identifierChar := by
  cases t with
  | nil => rfl
  | cons c rest =>
    refine if_neg ?_
    rw [isDigit_identifierChar, h c rfl]
    exact Bool.false_ne_true

theorem made_iff {t r : List Char} : Made t r ↔ guardDigit (t.map identifierChar) = r := by
  constructor
  · intro h
    cases h with
    | plain hbody hfirst =>
      rw [guardDigit_of_not_digit hfirst]
      exact forall₂_stands_iff.mp hbody
    | guarded hbody hfirst =>
      rw [guardDigit_of_digit hfirst, forall₂_stands_iff.mp hbody]
  · rintro rfl
    by_cases hfirst : ∃ c ∈ t.head?, c.isDigit = true
    · rw [guardDigit_of_digit hfirst]
      exact .guarded (forall₂_stands_iff.mpr rfl) hfirst
    · have hfirst : ∀ c ∈ t.head?, c.isDigit = false := by simpa using hfirst
      rw [guardDigit_of_not_digit hfirst]
      exact .plain (forall₂_stands_iff.mpr rfl) hfirst

/-- An id with an ASCII letter or digit is trimmed, mapped and guarded. -/
theorem identifier?_of_mem {s : String} {c : Char} (hc : c ∈ s.toList)
    (halnum : c.isAlphanum = true) :
    identifier? s
      = some (String.ofList (guardDigit ((Text.trim s.toList).map identifierChar))) := by
  have hsome : identifier? s ≠ none := by
    intro hnone
    have hnot := List.any_eq_false.mp (identifier?_eq_none.mp hnone) c hc
    exact hnot halnum
  simp only [identifier?, identifierChars?] at hsome ⊢
  split at hsome
  · exact absurd rfl hsome
  · rename_i hall
    rw [if_neg hall]
    rfl

/-- **WHAT AN ID MAKES**: nothing, or what is made of its trimmed text. -/
theorem identifier?_eq_some_iff {s r : String} :
    identifier? s = some r ↔
      (∃ c ∈ s.toList, c.isAlphanum = true) ∧
        ∃ t, Text.Trims s.toList t ∧ Made t r.toList := by
  have hmade : (∃ t, Text.Trims s.toList t ∧ Made t r.toList) ↔
      guardDigit ((Text.trim s.toList).map identifierChar) = r.toList := by
    constructor
    · rintro ⟨t, htrims, hmade⟩
      rw [Text.trim_eq_iff.mpr htrims]
      exact made_iff.mp hmade
    · intro h
      exact ⟨_, Text.trim_eq_iff.mp rfl, made_iff.mpr h⟩
  rw [hmade]
  constructor
  · intro h
    have hany : ∃ c ∈ s.toList, c.isAlphanum = true := by
      by_contra hnot
      have hnone : identifier? s = none := by
        rw [identifier?_eq_none, List.any_eq_false]
        exact fun c hc halnum => hnot ⟨c, hc, halnum⟩
      rw [hnone] at h
      cases h
    obtain ⟨c, hc, halnum⟩ := hany
    rw [identifier?_of_mem hc halnum] at h
    rw [← Option.some.inj h, String.toList_ofList]
    exact ⟨⟨c, hc, halnum⟩, rfl⟩
  · rintro ⟨⟨c, hc, halnum⟩, h⟩
    rw [identifier?_of_mem hc halnum, h, String.ofList_toList]

/-! ## §3. Fixed identifiers. -/

theorem isBlank_of_isIdentifierChar {c : Char} (h : isIdentifierChar c = true) :
    Text.isBlank c = false := by
  rcases isIdentifierChar_iff.mp h with halnum | rfl
  · exact isBlank_of_isAlphanum halnum
  · decide

/-- An identifier has no white space that could be trimmed. -/
theorem trims_self {t : List Char} (h : ∀ c ∈ t, isIdentifierChar c = true) :
    Text.Trims t t where
  taken := ⟨[], [], by simp, nofun, nofun⟩
  head := fun c hc => isBlank_of_isIdentifierChar (h c (List.mem_of_mem_head? hc))
  last := fun c hc => isBlank_of_isIdentifierChar (h c (List.mem_of_mem_getLast? hc))

/-- **THE FIXED IDENTIFIERS** are those with an ASCII letter or digit. -/
theorem identifier?_eq_self_iff {s : String} :
    identifier? s = some s ↔
      isIdentifier s.toList = true ∧ ∃ c ∈ s.toList, c.isAlphanum = true := by
  constructor
  · exact isIdentifier_of_identifier?
  · rintro ⟨hidentifier, hany⟩
    obtain ⟨-, hchars, hfirst⟩ := isIdentifier_iff.mp hidentifier
    have hsame : List.Forall₂ Stands s.toList s.toList :=
      List.forall₂_same.mpr fun c hc => .same (isIdentifierChar_iff.mp (hchars c hc))
    exact identifier?_eq_some_iff.mpr ⟨hany, s.toList, trims_self hchars, .plain hsame hfirst⟩

/-- What an id makes is fixed. -/
theorem identifier?_of_identifier? {s r : String} (h : identifier? s = some r) :
    identifier? r = some r :=
  identifier?_eq_self_iff.mpr (isIdentifier_of_identifier? h)

end Name

/-! ## §4. The names of methods. -/

/-- An alias that is a made identifier is the name of the method, unchanged. -/
theorem Method.nameOf_of_identifier? {o : Options} {id given s : String}
    (hgiven : o.aliases.get? id = some given) (hs : Name.identifier? s = some given) :
    nameOf o id = .of given := by
  have hmade : (o.aliases.get? id).bind Name.identifier? = some given := by
    rw [hgiven]
    exact Name.identifier?_of_identifier? hs
  rw [nameOf, hmade]
  rfl

namespace Document

open Name (identifier? isIdentifier Made)

/-- **IDS MAKE FIXED IDENTIFIERS, OR NONE.**  An id without an ASCII letter or digit makes none.  Every
other id makes an identifier, which is made of its trimmed text character by character, and which
makes itself.  So the id of a method whose operation declares one is fixed, and an alias that is
made already names its method unchanged. -/
theorem identifiers_are_fixed :
    (∀ s : String,
      (identifier? s = none ↔ ∀ c ∈ s.toList, c.isAlphanum = false) ∧
      (∀ r, identifier? s = some r ↔ (∃ c ∈ s.toList, c.isAlphanum = true) ∧
        ∃ t, Text.Trims s.toList t ∧ Made t r.toList) ∧
      ∀ r, identifier? s = some r → isIdentifier r.toList ∧ identifier? r = some r) ∧
    ∀ (d : Document) (models : Models) (options : Options) (out : Compilation),
      d.compile models options = .ok out → ∀ m ∈ out.methods,
        (∃ x, d.Declares x ∧ d.outcome models options x = .ok m) ∧
        (∀ x id, d.outcome models options x = .ok m → x.operation.operationId = some id →
          identifier? m.operationId = some m.operationId) ∧
        ∀ given s, options.aliases.get? m.operationId = some given →
          identifier? s = some given → m.name = .of given := by
  refine ⟨fun s => ⟨?_, fun r => Name.identifier?_eq_some_iff, fun r hr =>
    ⟨(Name.isIdentifier_of_identifier? hr).1, Name.identifier?_of_identifier? hr⟩⟩,
    fun d models options out hout m hm => ?_⟩
  · rw [Name.identifier?_eq_none, List.any_eq_false]
    simp only [Bool.not_eq_true]
  · obtain ⟨ps, hps, x, hx, hcompile⟩ := (mem_methods_of_compile hout m).mp hm
    obtain ⟨-, hname, -⟩ := Declared.stages_of_compile hcompile
    refine ⟨⟨x, ⟨ps, hps, hx⟩, hcompile⟩, ?_, ?_⟩
    · intro y id hy hid
      obtain ⟨⟨merged, body, hstages⟩, -⟩ := Declared.stages_of_compile hy
      obtain ⟨hdeclared, -, -⟩ := Method.operationId_of_identifierOf hstages.identifier
      exact Name.identifier?_of_identifier? (hdeclared id hid).1
    · intro given s hgiven hs
      exact hname.trans (Method.nameOf_of_identifier? hgiven hs)

/-- An operation whose id has white space at its ends, a digit in front and a letter beyond ASCII. -/
def verifyOperation : Operation := { operationId := some " 2fa-vérify\t" }

/-- A document with this operation. -/
def verifyDocument : Document where
  swagger := some "2.0"
  paths := some [("/2fa", { operations := [(.post, verifyOperation)] })]

/-- An alias for the id that the operation makes; it is made of a text with a space. -/
def verifyOptions : Options := { aliases := [("_2fa_v_rify", "check_2fa")] }

/-- The method of this document. -/
theorem exists_compile_verifyDocument :
    ∃ out m, verifyDocument.compile .none verifyOptions = .ok out ∧ out.methods = [m] ∧
      verifyDocument.outcome .none verifyOptions ⟨"/2fa", [], .post, verifyOperation⟩ = .ok m ∧
      m.operationId = "_2fa_v_rify" := by
  refine ⟨_, _, rfl, rfl, rfl, ?_⟩
  decide +kernel

/-- The id that is made is fixed, the alias is the name, and dashes make no identifier. -/
theorem identifiers_are_fixed_verifyDocument :
    identifier? "--/" = none ∧
    (∃ t, Text.Trims " 2fa-vérify\t".toList t ∧ Made t "_2fa_v_rify".toList) ∧
    ∃ out m, verifyDocument.compile .none verifyOptions = .ok out ∧ m ∈ out.methods ∧
      m.operationId = "_2fa_v_rify" ∧ identifier? m.operationId = some m.operationId ∧
      m.name = .of "check_2fa" := by
  obtain ⟨hids, hmethods⟩ := identifiers_are_fixed
  obtain ⟨out, m, hout, hm, houtcome, hid⟩ := exists_compile_verifyDocument
  have hm : m ∈ out.methods := by simp [hm]
  obtain ⟨-, hfixed, hnamed⟩ := hmethods verifyDocument .none verifyOptions out hout m hm
  obtain ⟨hnone, -, -⟩ := hids "--/"
  obtain ⟨-, hmade, -⟩ := hids " 2fa-vérify\t"
  have hdashes : "--/".toList.all (fun c => !c.isAlphanum) = true := by decide
  have hdash : ∀ c ∈ "--/".toList, c.isAlphanum = false := fun c hc => by
    simpa using List.all_eq_true.mp hdashes c hc
  refine ⟨hnone.mpr hdash, ((hmade "_2fa_v_rify").mp (by decide +kernel)).2,
    out, m, hout, hm, hid, hfixed _ _ houtcome rfl, ?_⟩
  refine hnamed "check_2fa" "check 2fa" ?_ (by decide +kernel)
  rw [hid]
  rfl

end Document

end ApiMethods
