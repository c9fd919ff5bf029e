/-
  ApiMethods.Proofs.DeclaredModels
  ────────────────────────────────
  **WHICH DECLARED SCHEMA SPEAKS FOR A MODEL TYPE.**

  The named schemas of a document are kept by the types that they become, not by their names.
  Conversion loses the difference between `user_profile`, `userProfile` and `User-Profile`, so a
  type may have several names, and of the schemas declared under these the LAST ONE SPEAKS for the
  type (`speaker?`): its name makes the file, and it says whether the type is a model.

  A reference therefore gets the answer that its own name deserves (`Resolves`) exactly when no
  rival is heard in its place (`Unrivalled`):

      the name is declared         the last schema of its type has the same file, and is as much of
                                   a model,
      the name is not declared     no declared name becomes the same type.
-/
import ApiMethods.Models
import ApiMethods.Proofs.MergedParameters

namespace ApiMethods

open Document (Schema)

namespace Models

/-! ## §1. The last one speaks. -/

/-- The last schema that is declared under a name of a type. -/
def speaker? (d : Document) (type : String) : Option (String × Schema) :=
  (d.schemas.filter fun e => (Name.of e.1).pascal = type).getLast?

/-- A type has a speaker if a declared name becomes this type. -/
theorem isSome_speaker?_iff {d : Document} {type : String} :
    (speaker? d type).isSome ↔ ∃ name ∈ d.schemas.keys, (Name.of name).pascal = type := by
  unfold speaker?
  rw [Option.isSome_iff_ne_none, Ne, List.getLast?_eq_none_iff, List.filter_eq_nil_iff]
  simp [Table.keys]

/-- **THE ENTRY OF A TYPE IS THAT OF ITS SPEAKER.** -/
theorem get?_entries (d : Document) (type : String) :
    (entries d).get? type =
      (speaker? d type).map fun e => ⟨(Name.of e.1).snake, isObjectLike e.2⟩ := by
  have hentries : entries d = Table.ofEntries (d.schemas.map fun e =>
      ((Name.of e.1).pascal, Entry.mk (Name.of e.1).snake (isObjectLike e.2))) := rfl
  rw [hentries, Table.get?_ofEntries, List.filter_map, List.getLast?_map, Option.map_map]
  simp only [Function.comp_def, speaker?]

/-! ## §2. What is answered. -/

section Answers

variable (d : Document) (dir : String)

/-- A reference means a type when it has the form of one to a schema and its type has a speaker. -/
theorem typeOf?_ofDocument {target type : String} :
    (ofDocument d dir).typeOf? target = some type ↔
      ∃ name, Reference.name? "schemas" target = some name ∧ (Name.of name).pascal = type ∧
        (speaker? d type).isSome := by
  show (do
    let name ← Reference.name? "schemas" target
    if (entries d).has (Name.of name).pascal then some (Name.of name).pascal else .none) = _ ↔ _
  simp only [Option.bind_eq_bind, Option.bind_eq_some_iff]
  refine exists_congr fun name => and_congr_right fun _ => ?_
  have hhas : (entries d).has (Name.of name).pascal =
      (speaker? d (Name.of name).pascal).isSome := by
    unfold Table.has
    rw [get?_entries, Option.isSome_map]
  rw [hhas]
  constructor
  · intro h
    split at h
    · rename_i hsome
      have htype := Option.some.inj h
      exact ⟨htype, htype ▸ hsome⟩
    · cases h
  · rintro ⟨rfl, hsome⟩
    rw [if_pos hsome]

/-- A type is imported from the file of its speaker. -/
theorem importOf?_ofDocument (type : String) :
    (ofDocument d dir).importOf? type =
      (speaker? d type).map fun e => pathIn dir (Name.of e.1).snake := by
  show ((entries d).get? type).map _ = _
  rw [get?_entries, Option.map_map]
  rfl

/-- A type is a model when its speaker describes objects. -/
theorem isModel_ofDocument (type : String) :
    (ofDocument d dir).isModel type =
      ((speaker? d type).map fun e => isObjectLike e.2).getD false := by
  show (((entries d).get? type).map _).getD false = _
  rw [get?_entries, Option.map_map]
  rfl

end Answers

/-- Different files of a directory have different paths. -/
theorem pathIn_injective (dir : String) : Function.Injective (pathIn dir) := by
  intro a b h
  unfold pathIn at h
  have htexts := congrArg String.toList h
  by_cases hopen : dir.isEmpty ∨ dir.toList.getLast? = some '/'
  · rw [if_pos hopen, if_pos hopen, String.toList_append, String.toList_append] at htexts
    exact String.toList_inj.mp (List.append_cancel_left htexts)
  · simp only [if_neg hopen, String.toList_append] at htexts
    exact String.toList_inj.mp (List.append_cancel_left htexts)

/-! ## §3. What a name deserves. -/

/-- A source of models answers for a reference what the document declares under its name, and nothing
    when it declares nothing. -/
structure Resolves (m : Models) (d : Document) (dir target : String) : Prop where
  /-- The reference means a type when its name is declared. -/
  declared : (m.typeOf? target).isSome ↔
    ∃ name, Reference.name? "schemas" target = some name ∧ name ∈ d.schemas.keys
  /-- The type is that of the name. -/
  type : ∀ type name, m.typeOf? target = some type →
    Reference.name? "schemas" target = some name → type = (Name.of name).pascal
  /-- The type is imported from the file of the name. -/
  path : ∀ type name, m.typeOf? target = some type →
    Reference.name? "schemas" target = some name →
    m.importOf? type = some (pathIn dir (Name.of name).snake)
  /-- It is a model when the schema that is declared under the name describes objects. -/
  model : ∀ type name s, m.typeOf? target = some type →
    Reference.name? "schemas" target = some name → d.schemas.get? name = some s →
    m.isModel type = isObjectLike s

/-- Whoever speaks for the type of a name says nothing but what is declared under the name. -/
def Unrivalled (d : Document) (name : String) : Prop :=
  ∀ e, speaker? d (Name.of name).pascal = some e →
    ∃ s, d.schemas.get? name = some s ∧ (Name.of e.1).snake = (Name.of name).snake ∧
      isObjectLike e.2 = isObjectLike s

section Deserving

variable {d : Document} {dir target : String}

/-- What is answered as a name deserves comes from nobody else. -/
theorem unrivalled_of_resolves (h : (ofDocument d dir).Resolves d dir target) {name : String}
    (hname : Reference.name? "schemas" target = some name) : Unrivalled d name := by
  intro e he
  -- the speaker answers for the reference, so the name is declared and the answers are its own
  have htype : (ofDocument d dir).typeOf? target = some (Name.of name).pascal :=
    (typeOf?_ofDocument d dir).mpr ⟨name, hname, rfl, by rw [he]; rfl⟩
  obtain ⟨name', hname', hdeclared⟩ := h.declared.mp (by rw [htype]; rfl)
  cases hname.symm.trans hname'
  obtain ⟨s, hs⟩ := Table.exists_get?_of_mem_keys hdeclared
  refine ⟨s, hs, ?_, ?_⟩
  · have hpath := h.path _ name htype hname
    rw [importOf?_ofDocument, he] at hpath
    exact pathIn_injective dir (Option.some.inj hpath)
  · have hmodel := h.model _ name s htype hname hs
    rw [isModel_ofDocument, he] at hmodel
    exact hmodel

variable (h : ∀ name, Reference.name? "schemas" target = some name → Unrivalled d name)
include h

/-- Where the name of a reference has no rival, whoever speaks for its type says what it deserves. -/
theorem speaker?_of_unrivalled {type name : String}
    (htype : (ofDocument d dir).typeOf? target = some type)
    (hname : Reference.name? "schemas" target = some name) :
    type = (Name.of name).pascal ∧
      ∃ e s, speaker? d type = some e ∧ d.schemas.get? name = some s ∧
        (Name.of e.1).snake = (Name.of name).snake ∧ isObjectLike e.2 = isObjectLike s := by
  obtain ⟨name', hname', rfl, hsome⟩ := (typeOf?_ofDocument d dir).mp htype
  cases hname.symm.trans hname'
  obtain ⟨e, he⟩ := Option.isSome_iff_exists.mp hsome
  obtain ⟨s, hs, hsnake, hobject⟩ := h name hname e he
  exact ⟨rfl, e, s, he, hs, hsnake, hobject⟩

theorem resolves_of_unrivalled : (ofDocument d dir).Resolves d dir target where
  declared := by
    constructor
    · -- nobody but the declaration itself speaks, so it exists
      intro hsome
      obtain ⟨type, htype⟩ := Option.isSome_iff_exists.mp hsome
      obtain ⟨name, hname, -⟩ := (typeOf?_ofDocument d dir).mp htype
      obtain ⟨-, e, s, -, hs, -⟩ := speaker?_of_unrivalled h htype hname
      exact ⟨name, hname, Table.mem_keys_of_get? hs⟩
    · rintro ⟨name, hname, hdeclared⟩
      have hsome : (speaker? d (Name.of name).pascal).isSome :=
        isSome_speaker?_iff.mpr ⟨name, hdeclared, rfl⟩
      rw [(typeOf?_ofDocument d dir).mpr ⟨name, hname, rfl, hsome⟩]
      rfl
  type type name htype hname := (speaker?_of_unrivalled h htype hname).1
  path type name htype hname := by
    obtain ⟨-, e, s, he, -, hsnake, -⟩ := speaker?_of_unrivalled h htype hname
    rw [importOf?_ofDocument, he, Option.map_some, hsnake]
  model type name s htype hname hs := by
    obtain ⟨-, e, s', he, hs', -, hobject⟩ := speaker?_of_unrivalled h htype hname
    cases hs.symm.trans hs'
    rw [isModel_ofDocument, he, Option.map_some, hobject]
    rfl

end Deserving

/-- **MODELS OF A DOCUMENT.**  A reference means a type exactly when some declared name becomes the
type of its own name; the path of the type and whether it is a model are those of the last such
name.  That is what the name of the reference deserves exactly when this name has no rival. -/
theorem models_of_document (d : Document) (dir target : String) :
    (∀ type, (ofDocument d dir).typeOf? target = some type ↔
      ∃ name, Reference.name? "schemas" target = some name ∧ (Name.of name).pascal = type ∧
        ∃ name' ∈ d.schemas.keys, (Name.of name').pascal = type) ∧
    (∀ type, (ofDocument d dir).importOf? type =
        (speaker? d type).map (fun e => pathIn dir (Name.of e.1).snake) ∧
      (ofDocument d dir).isModel type =
        ((speaker? d type).map fun e => isObjectLike e.2).getD false) ∧
    ((ofDocument d dir).Resolves d dir target ↔
      ∀ name, Reference.name? "schemas" target = some name → Unrivalled d name) := by
  refine ⟨fun type => ?_, fun type => ?_, ?_⟩
  · rw [typeOf?_ofDocument]
    simp only [isSome_speaker?_iff]
  · exact ⟨importOf?_ofDocument d dir type, isModel_ofDocument d dir type⟩
  · constructor
    · exact fun h name hname => unrivalled_of_resolves h hname
    · exact resolves_of_unrivalled

/-- A document that declares one schema. -/
def profileDocument : Document where
  swagger := some "2.0"
  definitions := [("user_profile", .inline { type := some (.one .object) })]

/-- **A NAME THAT IS NOT DECLARED MAY BE ANSWERED FOR**, by a declared one that becomes the same
type. -/
theorem exists_not_resolves :
    ¬ ∀ (d : Document) (dir target : String), (ofDocument d dir).Resolves d dir target := by
  intro hall
  have htype : (ofDocument profileDocument "models").typeOf? "#/definitions/UserProfile"
      = some "UserProfile" := by
    decide +kernel
  have hname : Reference.name? "schemas" "#/definitions/UserProfile" = some "UserProfile" := by
    decide +kernel
  obtain ⟨name, hname', hdeclared⟩ :=
    (hall profileDocument "models" "#/definitions/UserProfile").declared.mp (by rw [htype]; rfl)
  cases hname.symm.trans hname'
  exact absurd hdeclared (by decide)

end Models

end ApiMethods
