/-
  ApiMethods.Proofs.MethodNames
  ─────────────────────────────
  **WHICH NAMES OF A METHOD ARE IDENTIFIERS.**

  The name of a method comes from one of three places, and then goes through the conventions:

      a declared id        is made an identifier, or the operation is left out,
      an alias             is made an identifier, or it is ignored,
      the route            becomes a name as it is, with its letters beyond ASCII.

  The conventions keep the letters and numbers of a name and nothing else: a `_` in front of a
  digit is lost, and so is one in the place of a letter.  So none of them is ever empty, but

      a name in the conventions begins with a digit when the first letter or number of the name
      is a digit, and leaves ASCII in some of them when the name has a letter beyond ASCII.

  These are the only two ways to fail (`isIdentifier_conventions`).
-/
import ApiMethods.Proofs.Outcomes
import ApiMethods.Proofs.Words

namespace ApiMethods

namespace Name

/-! ## §1. What is left of a name. -/

/-- The letters and numbers of a text, in order. -/
def letters (s : String) : List Char := s.toList.filter Text.isAlphanumeric

/-- A name in each of the conventions. -/
def conventions (n : Name) : List String := [n.pascal, n.camel, n.snake, n.screaming]

theorem isAlphanumeric_underscore : Text.isAlphanumeric '_' = false := by decide

theorem filter_collapseFrom (due started : Bool) (cs : List Char) :
    (collapseFrom due started cs).filter Text.isAlphanumeric
      = cs.filter Text.isAlphanumeric := by
  induction cs generalizing due started with
  | nil => rfl
  | cons c rest ih =>
    unfold collapseFrom
    by_cases hc : Text.isAlphanumeric c
    · rw [if_pos hc, List.filter_append, List.filter_cons_of_pos hc, ih,
        List.filter_cons_of_pos hc]
      split <;> simp [isAlphanumeric_underscore]
    · rw [if_neg hc, List.filter_cons_of_neg hc, ih]

theorem filter_digitGuard (cs : List Char) :
    (digitGuard cs).filter Text.isAlphanumeric = [] := by
  unfold digitGuard
  split
  · split <;> simp [isAlphanumeric_underscore]
  · rfl

/-- **COLLAPSING KEEPS THE LETTERS AND NUMBERS** of a name that has any. -/
theorem letters_collapse {s : String} (h : letters s ≠ []) : letters (collapse s) = letters s := by
  have hfilter : (digitGuard s.toList ++ collapseFrom false false s.toList).filter
      Text.isAlphanumeric = letters s := by
    rw [List.filter_append, filter_digitGuard, filter_collapseFrom]
    rfl
  unfold collapse
  split
  · rename_i hnil
    rw [hnil] at hfilter
    exact absurd hfilter.symm h
  · rw [← hfilter, letters, String.toList_ofList]

/-- Among the letters and numbers are those of ASCII. -/
theorem letters_ne_nil {s : String} {c : Char} (hc : c ∈ s.toList) (h : c.isAlphanum = true) :
    letters s ≠ [] := by
  refine List.ne_nil_of_mem (List.mem_filter.mpr ⟨hc, ?_⟩)
  rw [Text.isAlphanumeric_of_isAscii (Text.isAscii_of_isAlphanum h)]
  exact h

/-! ## §2. The conventions. -/

theorem isIdentifierChar_of_isAlphanum {c : Char} (h : c.isAlphanum = true) :
    isIdentifierChar c = true := by
  simp [isIdentifierChar, h]

theorem isAscii_of_isIdentifierChar {c : Char} (h : isIdentifierChar c = true) :
    Text.isAscii c = true := by
  simp only [isIdentifierChar, Bool.or_eq_true, decide_eq_true_eq] at h
  rcases h with h | rfl
  · exact Text.isAscii_of_isAlphanum h
  · decide

/-- An identifier has the characters of one, and no digit in front. -/
theorem isIdentifier_iff {cs : List Char} :
    isIdentifier cs = true ↔
      cs ≠ [] ∧ (∀ c ∈ cs, isIdentifierChar c = true) ∧ ∀ c ∈ cs.head?, c.isDigit = false := by
  cases cs with
  | nil => simp [isIdentifier]
  | cons c rest => simp [isIdentifier, and_assoc, and_comm]

section Conventions

variable {s : String}

/-- The words of a name, one behind the other. -/
theorem flatten_words_collapse (h : letters s ≠ []) :
    (Text.words (collapse s).toList).flatten = letters s :=
  (Text.flatten_words _).trans (letters_collapse h)

/-- Every convention writes the words of the name. -/
theorem conventional {v : String} (hv : v ∈ (of s).conventions) :
    Text.Conventional (Text.words (collapse s).toList) v.toList := by
  simp only [conventions, List.mem_cons, List.not_mem_nil, or_false] at hv
  rcases hv with rfl | rfl | rfl | rfl
  · exact Text.conventional_pascalCase _
  · exact Text.conventional_camelCase _
  · exact Text.conventional_snakeCase _
  · exact Text.conventional_screamingSnakeCase _

/-- What stands first in a convention is the first letter or number in some case. -/
theorem exists_first (h : letters s ≠ []) :
    ∃ c rest, letters s = c :: rest ∧ ∀ v ∈ (of s).conventions,
      ∃ w l tail, Text.Cased (c :: w) l ∧ v.toList = l ++ tail := by
  have hflatten := flatten_words_collapse h
  have hwords : ∀ w ∈ Text.words (collapse s).toList, w ≠ [] := fun _ =>
    Text.ne_nil_of_mem_words
  cases hws : Text.words (collapse s).toList with
  | nil =>
    rw [hws] at hflatten
    exact absurd hflatten.symm h
  | cons w ws =>
    rw [hws] at hflatten hwords
    obtain ⟨c, w, rfl⟩ := List.exists_cons_of_ne_nil (hwords w List.mem_cons_self)
    refine ⟨c, w ++ ws.flatten, hflatten.symm, fun v hv => ?_⟩
    have hconv := conventional hv
    rw [hws] at hconv
    obtain ⟨l, tail, hcased, heq⟩ := hconv.begins
    exact ⟨w, l, tail, hcased, heq⟩

/-- **NO CONVENTION IS EMPTY.** -/
theorem conventions_ne_empty (h : letters s ≠ []) : ∀ v ∈ (of s).conventions, v.toList ≠ [] := by
  obtain ⟨c, rest, -, hfirst⟩ := exists_first h
  intro v hv
  obtain ⟨w, l, tail, hcased, heq⟩ := hfirst v hv
  rw [heq]
  exact List.append_ne_nil_of_left_ne_nil (hcased.ne_nil (List.cons_ne_nil c w)) tail

/-- A character of a word is a letter or number of the name. -/
theorem mem_letters_of_mem_word (h : letters s ≠ []) {w : List Char} {c : Char}
    (hw : w ∈ Text.words (collapse s).toList) (hc : c ∈ w) : c ∈ letters s := by
  rw [← flatten_words_collapse h]
  exact List.mem_flatten.mpr ⟨w, hw, hc⟩

/-- A name in ASCII stays there in every convention. -/
theorem isIdentifierChar_of_ascii (h : letters s ≠ [])
    (hascii : ∀ c ∈ letters s, Text.isAscii c = true) {v : String} (hv : v ∈ (of s).conventions) :
    ∀ c ∈ v.toList, isIdentifierChar c = true := by
  intro c hc
  rcases (conventional hv).mem hc with rfl | ⟨w, hw, l, hcased, hcl⟩
  · decide
  · have hletters : ∀ d ∈ w, d ∈ letters s := fun d => mem_letters_of_mem_word h hw
    have hc := hcased.isAscii (fun d hd => hascii d (hletters d hd)) c hcl
    exact isIdentifierChar_of_isAlphanum
      (hcased.isAlphanum (fun d hd => (List.mem_filter.mp (hletters d hd)).2) hcl hc)

/-- A letter beyond ASCII shows in `snake_case` or in `SCREAMING_SNAKE`. -/
theorem exists_not_ascii_convention (h : letters s ≠ []) {c : Char} (hc : c ∈ letters s)
    (hout : Text.isAscii c = false) :
    ∃ v ∈ (of s).conventions, ∃ e ∈ v.toList, Text.isAscii e = false := by
  rw [← flatten_words_collapse h] at hc
  obtain ⟨w, hw, hcw⟩ := List.mem_flatten.mp hc
  rcases Text.exists_not_ascii_word hcw hout with ⟨e, he, heout⟩ | ⟨e, he, heout⟩
  · refine ⟨(of s).snake, by simp [conventions], e, ?_, heout⟩
    show e ∈ (Text.snakeCase (collapse s)).toList
    rw [Text.snakeCase, String.toList_ofList]
    exact Text.mem_intercalate_of_mem (List.mem_map_of_mem hw) he
  · refine ⟨(of s).screaming, by simp [conventions], e, ?_, heout⟩
    show e ∈ (Text.screamingSnakeCase (collapse s)).toList
    rw [Text.screamingSnakeCase, String.toList_ofList]
    exact Text.mem_intercalate_of_mem (List.mem_map_of_mem hw) he

/-- **THE CONVENTIONS STAY WITHIN ASCII WHEN THE NAME DOES**, and only then. -/
theorem isIdentifierChar_conventions (h : letters s ≠ []) :
    (∀ v ∈ (of s).conventions, ∀ c ∈ v.toList, isIdentifierChar c = true) ↔
      ∀ c ∈ letters s, Text.isAscii c = true := by
  refine ⟨fun hall c hc => ?_, fun hascii v hv => isIdentifierChar_of_ascii h hascii hv⟩
  by_contra hout
  obtain ⟨v, hv, e, he, heout⟩ := exists_not_ascii_convention h hc (by simpa using hout)
  rw [isAscii_of_isIdentifierChar (hall v hv e he)] at heout
  cases heout

/-- **THE CONVENTIONS ARE IDENTIFIERS** when the name is in ASCII and its first letter or number is
a letter, and only then. -/
theorem isIdentifier_conventions (h : letters s ≠ []) :
    (∀ v ∈ (of s).conventions, isIdentifier v.toList = true) ↔
      (∀ c ∈ letters s, Text.isAscii c = true) ∧ ∀ c ∈ (letters s).head?, c.isDigit = false := by
  have hchars := isIdentifierChar_conventions h
  obtain ⟨c, rest, hletters, hfirst⟩ := exists_first h
  -- in ASCII a convention begins with a digit when the name does
  have hdigit : Text.isAscii c = true → ∀ v ∈ (of s).conventions,
      ∃ e tail, v.toList = e :: tail ∧ e.isDigit = c.isDigit := by
    intro hc v hv
    obtain ⟨w, l, tail, hcased, heq⟩ := hfirst v hv
    obtain ⟨e, l, rfl, he⟩ := hcased.isDigit_head hc
    exact ⟨e, l ++ tail, heq, he⟩
  constructor
  · intro hall
    have hascii := hchars.mp fun v hv => (isIdentifier_iff.mp (hall v hv)).2.1
    refine ⟨hascii, fun d hd => ?_⟩
    have hc : Text.isAscii c = true := hascii c (by rw [hletters]; exact List.mem_cons_self)
    obtain rfl : c = d := by simpa [hletters] using hd
    have hpascal : (of s).pascal ∈ (of s).conventions := List.mem_cons_self
    obtain ⟨e, tail, heq, he⟩ := hdigit hc _ hpascal
    rw [← he]
    exact (isIdentifier_iff.mp (hall _ hpascal)).2.2 e (by rw [heq]; rfl)
  · rintro ⟨hascii, hfront⟩ v hv
    refine isIdentifier_iff.mpr ⟨conventions_ne_empty h v hv, hchars.mpr hascii v hv, ?_⟩
    have hc : Text.isAscii c = true := hascii c (by rw [hletters]; exact List.mem_cons_self)
    obtain ⟨e, tail, heq, he⟩ := hdigit hc v hv
    rw [heq]
    intro e' he'
    obtain rfl : e = e' := by simpa using he'
    rw [he]
    exact hfront c (by rw [hletters]; rfl)

end Conventions

/-! ## §3. Where a name comes from. -/

theorem isIdentifierChar_identifierChar (c : Char) : isIdentifierChar (identifierChar c) = true := by
  unfold identifierChar
  split
  · assumption
  · decide

/-- **WHAT AN ID MAKES IS AN IDENTIFIER**, and it has an ASCII letter or digit. -/
theorem isIdentifier_of_identifier? {s id : String} (h : identifier? s = some id) :
    isIdentifier id.toList = true ∧ ∃ c ∈ id.toList, c.isAlphanum = true := by
  obtain ⟨cs, hcs, rfl⟩ := Option.map_eq_some_iff.mp h
  rw [String.toList_ofList]
  simp only [identifierChars?] at hcs
  split at hcs
  · cases hcs
  rename_i hall
  -- one character is not `_`, so it is a letter or digit
  obtain ⟨c, hc, hne⟩ : ∃ c ∈ (Text.trim s.toList).map identifierChar, c ≠ '_' := by
    simpa [List.all_eq_true] using hall
  have hchars : ∀ c ∈ (Text.trim s.toList).map identifierChar, isIdentifierChar c = true :=
    List.forall_mem_map.mpr fun c _ => isIdentifierChar_identifierChar c
  have halnum : c.isAlphanum = true := by
    simpa [isIdentifierChar, hne] using hchars c hc
  generalize (Text.trim s.toList).map identifierChar = mapped at hcs hc hchars
  cases hcs
  cases mapped with
  | nil => cases hc
  | cons d rest =>
    have hrest : ∀ c ∈ rest, isIdentifierChar c = true := fun c hc =>
      hchars c (List.mem_cons_of_mem d hc)
    have hd := hchars d List.mem_cons_self
    by_cases hdigit : d.isDigit
    · rw [guardDigit, if_pos hdigit]
      refine ⟨?_, c, List.mem_cons_of_mem _ hc, halnum⟩
      have hguarded : ∀ c ∈ d :: rest, isIdentifierChar c = true := hchars
      simpa [isIdentifier, show isIdentifierChar '_' = true by decide] using hguarded
    · rw [guardDigit, if_neg hdigit]
      refine ⟨?_, c, hc, halnum⟩
      simpa [isIdentifier, hd, hdigit] using hrest

theorem isAscii_of_isIdentifier {cs : List Char} (h : isIdentifier cs = true) :
    ∀ c ∈ cs, Text.isAscii c = true :=
  fun c hc => isAscii_of_isIdentifierChar ((isIdentifier_iff.mp h).2.1 c hc)

/-- A verb has a word for it. -/
theorem isIdentifier_action (verb : Verb) (single : Bool) :
    isIdentifier (action (String.ofList (Text.upperWord verb.text.toList)) single).toList = true ∧
      ∃ c ∈ (action (String.ofList (Text.upperWord verb.text.toList)) single).toList,
        c.isAlphanum = true := by
  rw [← List.any_eq_true]
  cases verb <;> cases single <;> decide +kernel

/-- **Run**: whatever is put behind a name word by word has only letters and digits in ASCII. -/
theorem toList_foldl_pascalCase (things : List (List Char)) (name : String) :
    ∃ tail, (things.foldl (fun name w => name ++ Text.pascalCase (String.ofList w)) name).toList
        = name.toList ++ tail ∧
      ∀ c ∈ tail, Text.isAscii c = true → c.isAlphanum = true := by
  induction things generalizing name with
  | nil => exact ⟨[], (List.append_nil _).symm, nofun⟩
  | cons w rest ih =>
    obtain ⟨tail, heq, htail⟩ := ih (name ++ Text.pascalCase (String.ofList w))
    refine ⟨(Text.pascalCase (String.ofList w)).toList ++ tail, ?_, fun c hc hascii => ?_⟩
    · rw [List.foldl_cons, heq, String.toList_append, List.append_assoc]
    · rcases List.mem_append.mp hc with hc | hc
      · exact Text.isAlphanum_of_mem_pascalCase hc hascii
      · exact htail c hc hascii

/-- The name of a route begins with the word for its verb, and what follows is in ASCII a letter or a
    digit. -/
theorem toList_ofRoute (verb : Verb) (path : String) :
    ∃ single tail, (ofRoute verb.text path).toList
        = (action (String.ofList (Text.upperWord verb.text.toList)) single).toList ++ tail ∧
      ∀ c ∈ tail, Text.isAscii c = true → c.isAlphanum = true := by
  obtain ⟨tail, heq, htail⟩ := toList_foldl_pascalCase _ _
  exact ⟨_, tail, heq, htail⟩

/-- **THE NAME OF A ROUTE IS AN IDENTIFIER WHEN IT IS IN ASCII**, and only then. -/
theorem isIdentifier_ofRoute (verb : Verb) (path : String) :
    (isIdentifier (ofRoute verb.text path).toList = true ↔
      ∀ c ∈ (ofRoute verb.text path).toList, Text.isAscii c = true) ∧
    ∃ c ∈ (ofRoute verb.text path).toList, c.isAlphanum = true := by
  obtain ⟨single, tail, heq, htail⟩ := toList_ofRoute verb path
  obtain ⟨haction, c, hc, halnum⟩ := isIdentifier_action verb single
  rw [heq]
  refine ⟨⟨isAscii_of_isIdentifier, fun hascii => ?_⟩, c, List.mem_append_left _ hc, halnum⟩
  obtain ⟨hne, hchars, hfront⟩ := isIdentifier_iff.mp haction
  refine isIdentifier_iff.mpr ⟨List.append_ne_nil_of_left_ne_nil hne tail, ?_, ?_⟩
  · intro d hd
    rcases List.mem_append.mp hd with hd' | hd'
    · exact hchars d hd'
    · exact isIdentifierChar_of_isAlphanum (htail d hd' (hascii d hd))
  · rwa [List.head?_append_of_ne_nil _ hne]

end Name

/-! ## §4. Methods. -/

namespace Method

open Name (isIdentifier letters)

/-- **THE ID OF A METHOD**: what the declared id makes, or the name of the route. -/
theorem operationId_of_identifierOf {o : Options} {path : String} {verb : Verb}
    {op : Document.Operation} {id : String} (h : identifierOf o path verb op = .ok id) :
    (∀ declared, op.operationId = some declared →
      Name.identifier? declared = some id ∧ isIdentifier id.toList) ∧
    (op.operationId = none → id = Name.ofRoute verb.text path ∧
      (isIdentifier id.toList ↔ ∀ c ∈ id.toList, Text.isAscii c)) ∧
    ∃ c ∈ id.toList, c.isAlphanum = true := by
  unfold identifierOf at h
  cases hop : op.operationId with
  | some declared =>
    rw [hop] at h
    dsimp only at h
    cases hid : Name.identifier? declared with
    | none =>
      simp only [hid] at h
      cases h
    | some made =>
      simp only [hid] at h
      cases h
      obtain ⟨hidentifier, hchar⟩ := Name.isIdentifier_of_identifier? hid
      refine ⟨fun declared' heq => ?_, nofun, hchar⟩
      cases heq
      exact ⟨hid, hidentifier⟩
  | none =>
    rw [hop] at h
    dsimp only at h
    split at h
    · cases h
      obtain ⟨hiff, hchar⟩ := Name.isIdentifier_ofRoute verb path
      exact ⟨nofun, fun _ => ⟨rfl, hiff⟩, hchar⟩
    · cases h

/-- **THE NAME OF A METHOD**: its id, or what its alias makes. -/
theorem declared_nameOf {o : Options} {id : String} (h : ∃ c ∈ id.toList, c.isAlphanum = true) :
    ((nameOf o id).declared = id ∨
      ∃ given, o.aliases.get? id = some given ∧
        Name.identifier? given = some (nameOf o id).declared ∧
        isIdentifier (nameOf o id).declared.toList) ∧
    letters (nameOf o id).declared ≠ [] := by
  show (((o.aliases.get? id).bind Name.identifier?).getD id = id ∨ _) ∧
    letters (((o.aliases.get? id).bind Name.identifier?).getD id) ≠ []
  cases hmade : (o.aliases.get? id).bind Name.identifier? with
  | none =>
    obtain ⟨c, hc, halnum⟩ := h
    exact ⟨.inl rfl, Name.letters_ne_nil hc halnum⟩
  | some made =>
    obtain ⟨given, hgiven, hid⟩ := Option.bind_eq_some_iff.mp hmade
    obtain ⟨hidentifier, c, hc, halnum⟩ := Name.isIdentifier_of_identifier? hid
    have hdeclared : (nameOf o id).declared = made := by
      show ((o.aliases.get? id).bind Name.identifier?).getD id = made
      rw [hmade]
      rfl
    refine ⟨.inr ⟨given, hgiven, ?_, ?_⟩, Name.letters_ne_nil hc halnum⟩
    · rw [hdeclared, hid]
    · rw [hdeclared]
      exact hidentifier

end Method

namespace Document

open Name (isIdentifier isIdentifierChar letters)

/-- **THE NAMES OF A METHOD.**  A declared id becomes an identifier; the name of a route is one when
it is in ASCII.  The name of the method is this id, or an alias that has become an identifier.  Its
conventions are never empty; they have the characters of identifiers when the name is in ASCII, and
are identifiers when moreover the first letter or number of the name is a letter. -/
theorem names_of_compile (d : Document) (models : Models) (options : Options) (out : Compilation)
    (h : d.compile models options = .ok out) :
    ∀ m ∈ out.methods, ∃ x, d.Declares x ∧ d.outcome models options x = .ok m ∧
      (∀ id, x.operation.operationId = some id →
        Name.identifier? id = some m.operationId ∧ isIdentifier m.operationId.toList) ∧
      (x.operation.operationId = none → m.operationId = Name.ofRoute x.verb.text x.path ∧
        (isIdentifier m.operationId.toList ↔
          ∀ c ∈ m.operationId.toList, Text.isAscii c)) ∧
      m.operationId ≠ "" ∧
      (m.name.declared = m.operationId ∨
        ∃ given, options.aliases.get? m.operationId = some given ∧
          Name.identifier? given = some m.name.declared ∧ isIdentifier m.name.declared.toList) ∧
      (∀ v ∈ m.name.conventions, v ≠ "") ∧
      ((∀ v ∈ m.name.conventions, ∀ c ∈ v.toList, isIdentifierChar c) ↔
        ∀ c ∈ letters m.name.declared, Text.isAscii c) ∧
      ((∀ v ∈ m.name.conventions, isIdentifier v.toList) ↔
        (∀ c ∈ letters m.name.declared, Text.isAscii c) ∧
          ∀ c ∈ (letters m.name.declared).head?, ¬ c.isDigit) := by
  intro m hm
  obtain ⟨ps, hps, x, hx, hcompile⟩ := (mem_methods_of_compile h m).mp hm
  obtain ⟨⟨merged, body, hstages⟩, hname, -⟩ := Declared.stages_of_compile hcompile
  obtain ⟨hdeclared, hderived, hid⟩ := Method.operationId_of_identifierOf hstages.identifier
  obtain ⟨hsource, hletters⟩ := Method.declared_nameOf (o := options) hid
  have hname : m.name = Method.nameOf options m.operationId := hname
  rw [hname]
  refine ⟨x, ⟨ps, hps, hx⟩, hcompile, hdeclared, hderived, ?_, hsource, ?_, ?_, ?_⟩
  · rintro hempty
    rw [hempty] at hid
    obtain ⟨c, hc, -⟩ := hid
    cases hc
  · intro v hv hempty
    exact Name.conventions_ne_empty hletters v hv (congrArg String.toList hempty)
  · exact Name.isIdentifierChar_conventions hletters
  · simp only [Bool.not_eq_true]
    exact Name.isIdentifier_conventions hletters

/-- An operation whose id begins with a digit, and one without an id under a path with an umlaut. -/
def marketDocument : Document where
  swagger := some "2.0"
  paths := some [
    ("/2fa", { operations := [(.post, { operationId := some "2fa-verify" })] }),
    ("/äpfel", { operations := [(.get, {})] })]

/-- The ids of operations without one are derived. -/
def marketOptions : Options := { deriveMissingIds := true }

/-- The two methods of this document. -/
theorem exists_compile_marketDocument :
    ∃ out m n, marketDocument.compile .none marketOptions = .ok out ∧ out.methods = [m, n] ∧
      m.operationId = "_2fa_verify" ∧ m.name = .of "_2fa_verify" ∧
      n.operationId = "listÄpfel" ∧ n.name = .of "listÄpfel" := by
  refine ⟨_, _, _, rfl, rfl, ?_, ?_, ?_, ?_⟩
  · decide +kernel
  · decide +kernel
  · decide +kernel
  · decide +kernel

/-- In the first method the id is an identifier, and the conventions have its characters but begin
    with a digit; in the second neither the id nor the conventions stay within ASCII. -/
theorem names_of_marketDocument :
    ∃ out m n, marketDocument.compile .none marketOptions = .ok out ∧ out.methods = [m, n] ∧
      (m.operationId = "_2fa_verify" ∧ isIdentifier m.operationId.toList ∧
        (∀ v ∈ m.name.conventions, v ≠ "") ∧
        (∀ v ∈ m.name.conventions, ∀ c ∈ v.toList, isIdentifierChar c) ∧
        ¬ ∀ v ∈ m.name.conventions, isIdentifier v.toList) ∧
      (n.operationId = "listÄpfel" ∧ ¬ isIdentifier n.operationId.toList ∧
        (∀ v ∈ n.name.conventions, v ≠ "") ∧
        ¬ ∀ v ∈ n.name.conventions, ∀ c ∈ v.toList, isIdentifierChar c) := by
  obtain ⟨out, m, n, hout, hmethods, hmid, hmname, hnid, hnname⟩ := exists_compile_marketDocument
  obtain ⟨-, -, -, -, -, -, -, hmne, hmchars, hmiff⟩ :=
    names_of_compile marketDocument .none marketOptions out hout m (by simp [hmethods])
  obtain ⟨-, -, -, -, -, -, -, hnne, hnchars, -⟩ :=
    names_of_compile marketDocument .none marketOptions out hout n (by simp [hmethods])
  refine ⟨out, m, n, hout, hmethods, ⟨hmid, ?_, hmne, hmchars.mpr ?_, fun hall => ?_⟩,
    hnid, ?_, hnne, fun hall => ?_⟩
  · rw [hmid]
    decide
  · rw [hmname, ← List.all_eq_true]
    decide +kernel
  · obtain ⟨-, hfirst⟩ := hmiff.mp hall
    rw [hmname] at hfirst
    exact hfirst '2' (by decide +kernel) (by decide)
  · rw [hnid]
    decide
  · have hascii := hnchars.mp hall
    rw [hnname, ← List.all_eq_true] at hascii
    revert hascii
    decide +kernel

/-- **A METHOD MAY HAVE A NAME THAT IS NO IDENTIFIER**, in a convention or in its id. -/
theorem exists_name_not_identifier :
    ¬ ∀ (d : Document) (models : Models) (options : Options) (out : Compilation),
      d.compile models options = .ok out → ∀ m ∈ out.methods,
        isIdentifier m.operationId.toList ∧
        ∀ v ∈ m.name.conventions, isIdentifier v.toList := by
  intro hall
  obtain ⟨out, m, n, hout, hmethods, -, hname, -⟩ := exists_compile_marketDocument
  obtain ⟨-, hconventions⟩ :=
    hall marketDocument .none marketOptions out hout m (by simp [hmethods])
  have hcamel := hconventions m.name.camel (by simp [Name.conventions])
  rw [hname] at hcamel
  revert hcamel
  decide +kernel

end Document

end ApiMethods
