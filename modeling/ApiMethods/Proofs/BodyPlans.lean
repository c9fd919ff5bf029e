/-
  ApiMethods.Proofs.BodyPlans
  ───────────────────────────
  **THE FIELDS OF A BODY PLAN FIT TOGETHER.**

  A plan is made for the media type that is tried first, and its kind decides what is given as the
  body and how this is encoded:

      kind            the schema                  payload            encoding
      multipart                                   fields and files   multipart
      form                                        fields             form
      plain, html                                 a text             as it is
      xml             says it is a text           a text             as it is
      json, xml       means a known model         the model          by the model
      json, xml       otherwise                   a generic value    JSON
      other           means a known model         the model          by the model
      other           otherwise                   a text             as it is

  `Encodes` is this table, with one constructor for every way to go through it, and `encodes_encode`
  says that bodies are encoded by it.  `Plan.Coherent` says how the fields of a plan depend on each
  other, on the declared media types and on what the source of models knows; `plans_coherent` says
  when there is a plan at all, and that it is coherent.
-/
import ApiMethods.Proofs.Imports
import ApiMethods.Proofs.MediaTypes

namespace ApiMethods

open Document (Schema SchemaBody RequestBody)

/-! ## §1. What is known of a schema. -/

/-- A model is found when the source answers to the reference. -/
theorem Models.find?_eq_some_iff {m : Models} {schema : Schema} {found : Models.Found} :
    m.find? schema = some found ↔ ∃ target,
      Models.reference? schema = some (target, found.isList) ∧
        m.typeOf? target = some found.type := by
  unfold Models.find?
  cases Models.reference? schema with
  | none => exact iff_of_false nofun (by rintro ⟨_, ⟨⟩, _⟩)
  | some x =>
    obtain ⟨target, isList⟩ := x
    show ((m.typeOf? target).bind fun type => some (Models.Found.mk type isList)) = some found ↔ _
    constructor
    · intro h
      obtain ⟨type, htype, hfound⟩ := Option.bind_eq_some_iff.mp h
      cases hfound
      exact ⟨target, rfl, htype⟩
    · rintro ⟨_, ⟨⟩, htype⟩
      rw [htype]
      rfl

namespace Body

/-- The schema says that the body is a text, and nothing about members. -/
inductive SaysText : Option Schema → Prop
  | intro {b : SchemaBody Schema} : b.type = some (.one .string) → b.properties = [] →
      b.items = none → SaysText (some (.inline b))

theorem isBareString_iff (s : Option Schema) : isBareString s = true ↔ SaysText s := by
  unfold isBareString
  constructor
  · intro h
    rcases s with _ | target | b
    · cases h
    · cases h
    · change b.isBareString = true at h
      simp only [SchemaBody.isBareString, Bool.and_eq_true, decide_eq_true_eq, List.isEmpty_iff,
        Option.isNone_iff_eq_none] at h
      exact .intro h.1.1 h.1.2 h.2
  · rintro ⟨htype, hproperties, hitems⟩
    simp [Schema.body?, SchemaBody.isBareString, htype, hproperties, hitems]

/-- The source of models knows the model that the schema refers to, or refers to lists of. -/
def Knows (m : Models) (s : Option Schema) (type : String) (isList : Bool) : Prop :=
  ∃ schema target, s = some schema ∧ Models.reference? schema = some (target, isList) ∧
    m.typeOf? target = some type

/-- It knows one model of a schema at most. -/
theorem Knows.unique {m : Models} {s : Option Schema} {type type' : String} {isList isList' : Bool}
    (h : Knows m s type isList) (h' : Knows m s type' isList') : type = type' ∧ isList = isList' := by
  obtain ⟨schema, target, rfl, href, htype⟩ := h
  obtain ⟨_, target', ⟨⟩, href', htype'⟩ := h'
  cases href.symm.trans href'
  exact ⟨Option.some.inj (htype.symm.trans htype'), rfl⟩

/-- **A BODY IS A MODEL WHEN THE SOURCE KNOWS ONE**, and then it is this model. -/
theorem modelPayload?_eq_some_iff {m : Models} {s : Option Schema} {p : Payload} :
    modelPayload? m s = some p ↔ ∃ type isList, Knows m s type isList ∧ p = .model type isList := by
  unfold modelPayload?
  constructor
  · intro h
    obtain ⟨found, hfound, hp⟩ := Option.bind_eq_some_iff.mp h
    obtain ⟨schema, rfl, hfound⟩ := Option.bind_eq_some_iff.mp hfound
    obtain ⟨target, href, htype⟩ := Models.find?_eq_some_iff.mp hfound
    cases hp
    exact ⟨found.type, found.isList, ⟨schema, target, rfl, href, htype⟩, rfl⟩
  · rintro ⟨type, isList, ⟨schema, target, rfl, href, htype⟩, rfl⟩
    have hfound : m.find? schema = some ⟨type, isList⟩ :=
      Models.find?_eq_some_iff.mpr ⟨target, href, htype⟩
    show ((m.find? schema).bind fun found => some (Payload.model found.type found.isList)) = _
    rw [hfound]
    rfl

theorem modelPayload?_eq_none_iff {m : Models} {s : Option Schema} :
    modelPayload? m s = none ↔ ∀ type isList, ¬ Knows m s type isList := by
  rw [Option.eq_none_iff_forall_ne_some]
  constructor
  · exact fun h type isList hknows => h _ (modelPayload?_eq_some_iff.mpr ⟨type, isList, hknows, rfl⟩)
  · intro h p hp
    obtain ⟨type, isList, hknows, -⟩ := modelPayload?_eq_some_iff.mp hp
    exact h type isList hknows

/-! ## §2. The table. -/

/-- The type of a generic value: what the schema means, or any value where there is none. -/
def genericType (s : Option Schema) : ValueType := (s.map ValueType.generic).getD .any

/-- The kinds whose bodies may be models. -/
def Kind.Modelled (k : Kind) : Prop := k = .json ∨ k = .xml ∨ k = .other

theorem Kind.Modelled.ne {k : Kind} (h : k.Modelled) : k ≠ .multipart ∧ k ≠ .form := by
  rcases h with rfl | rfl | rfl <;> decide

/-- How bodies of a kind are given and encoded, the source of models being asked for models. -/
inductive Encodes (m : Models) (s : Option Schema) : Kind → Payload → Encoding → Prop
  | multipart : Encodes m s .multipart .fieldBag .multipart
  | form : Encodes m s .form .formMap .form
  | plain : Encodes m s .plain .rawString .passthrough
  | html : Encodes m s .html .rawString .passthrough
  | xmlText : SaysText s → Encodes m s .xml .rawString .passthrough
  | model {k : Kind} {type : String} {isList : Bool} : k.Modelled → ¬ (k = .xml ∧ SaysText s) →
      Knows m s type isList → Encodes m s k (.model type isList) .modelEncode
  | generic {k : Kind} : k = .json ∨ k = .xml → ¬ (k = .xml ∧ SaysText s) →
      (∀ type isList, ¬ Knows m s type isList) → Encodes m s k (.generic (genericType s)) .json
  | otherText : (∀ type isList, ¬ Knows m s type isList) →
      Encodes m s .other .rawString .passthrough

theorem encodes_structured {m : Models} {s : Option Schema} {k : Kind} (hk : k = .json ∨ k = .xml)
    (htext : ¬ (k = .xml ∧ SaysText s)) :
    Encodes m s k (structured m s).1 (structured m s).2 := by
  unfold structured
  split
  · rename_i p hp
    obtain ⟨type, isList, hknows, rfl⟩ := modelPayload?_eq_some_iff.mp hp
    exact .model (hk.imp_right .inl) htext hknows
  · rename_i hnone
    exact .generic hk htext (modelPayload?_eq_none_iff.mp hnone)

/-- **BODIES ARE ENCODED BY THE TABLE.** -/
theorem encodes_encode (m : Models) (s : Option Schema) (k : Kind) :
    Encodes m s k (encode m s k).1 (encode m s k).2 := by
  cases k with
  | multipart => exact .multipart
  | form => exact .form
  | plain => exact .plain
  | html => exact .html
  | json => exact encodes_structured (.inl rfl) nofun
  | xml =>
    show Encodes m s .xml
      (if isBareString s then (Payload.rawString, Encoding.passthrough) else structured m s).1
      (if isBareString s then (Payload.rawString, Encoding.passthrough) else structured m s).2
    split
    · rename_i htext
      exact .xmlText ((isBareString_iff s).mp htext)
    · rename_i htext
      exact encodes_structured (.inr rfl) fun h => htext ((isBareString_iff s).mpr h.2)
  | other =>
    show Encodes m s .other (modelOrText m s).1 (modelOrText m s).2
    unfold modelOrText
    split
    · rename_i p hp
      obtain ⟨type, isList, hknows, rfl⟩ := modelPayload?_eq_some_iff.mp hp
      exact .model (.inr (.inr rfl)) nofun hknows
    · rename_i hnone
      exact .otherText (modelPayload?_eq_none_iff.mp hnone)

/-- What is given as the body goes with one encoding. -/
inductive GoesWith : Payload → Encoding → Prop
  | fieldBag : GoesWith .fieldBag .multipart
  | formMap : GoesWith .formMap .form
  | rawString : GoesWith .rawString .passthrough
  | model (type : String) (isList : Bool) : GoesWith (.model type isList) .modelEncode
  | generic (t : ValueType) : GoesWith (.generic t) .json

namespace Encodes

variable {m : Models} {s : Option Schema} {k : Kind} {p : Payload} {e : Encoding}
  (h : Encodes m s k p e)
include h

theorem goesWith : GoesWith p e := by
  cases h with
  | multipart => exact .fieldBag
  | form => exact .formMap
  | plain | html | xmlText | otherText => exact .rawString
  | model => exact .model _ _
  | generic => exact .generic _

/-- Only multipart bodies are given by fields and files. -/
theorem fieldBag_iff : p = .fieldBag ↔ k = .multipart := by
  cases h with
  | multipart => exact iff_of_true rfl rfl
  | form | plain | html | xmlText | otherText => exact iff_of_false nofun nofun
  | model hk => exact iff_of_false nofun hk.ne.1
  | generic hk => exact iff_of_false nofun (Kind.Modelled.ne (hk.imp_right .inl)).1

/-- Only forms are given by fields alone. -/
theorem formMap_iff : p = .formMap ↔ k = .form := by
  cases h with
  | form => exact iff_of_true rfl rfl
  | multipart | plain | html | xmlText | otherText => exact iff_of_false nofun nofun
  | model hk => exact iff_of_false nofun hk.ne.2
  | generic hk => exact iff_of_false nofun (Kind.Modelled.ne (hk.imp_right .inl)).2

/-- **WHICH BODIES ARE MODELS.** -/
theorem model_iff (type : String) (isList : Bool) : p = .model type isList ↔
    k.Modelled ∧ ¬ (k = .xml ∧ SaysText s) ∧ Knows m s type isList := by
  cases h with
  | multipart | form | plain | html =>
    exact iff_of_false nofun (by rintro ⟨hk | hk | hk, -⟩ <;> cases hk)
  | xmlText htext => exact iff_of_false nofun fun hall => hall.2.1 ⟨rfl, htext⟩
  | model hk htext hknows =>
    constructor
    · rintro ⟨⟩
      exact ⟨hk, htext, hknows⟩
    · rintro ⟨-, -, hknows'⟩
      -- the source knows one model of the schema only
      obtain ⟨rfl, rfl⟩ := hknows.unique hknows'
      rfl
  | generic _ _ hnone => exact iff_of_false nofun fun hall => hnone _ _ hall.2.2
  | otherText hnone => exact iff_of_false nofun fun hall => hnone _ _ hall.2.2

/-- **WHICH BODIES ARE GENERIC VALUES**, and of which type. -/
theorem generic_iff (t : ValueType) : p = .generic t ↔
    (k = .json ∨ k = .xml) ∧ ¬ (k = .xml ∧ SaysText s) ∧
      (∀ type isList, ¬ Knows m s type isList) ∧ t = genericType s := by
  cases h with
  | multipart | form | plain | html | otherText =>
    exact iff_of_false nofun (by rintro ⟨hk | hk, -⟩ <;> cases hk)
  | xmlText htext => exact iff_of_false nofun fun hall => hall.2.1 ⟨rfl, htext⟩
  | model _ _ hknows => exact iff_of_false nofun fun hall => hall.2.2.1 _ _ hknows
  | generic hk htext hnone =>
    constructor
    · rintro ⟨⟩
      exact ⟨hk, htext, hnone, rfl⟩
    · rintro ⟨-, -, -, rfl⟩
      rfl

end Encodes

/-! ## §3. Plans whose fields fit together. -/

/-- The fields of a plan fit together, to the body that it is made for, and to what the source of
    models knows. -/
structure Plan.Coherent (m : Models) (b : RequestBody) (p : Plan) : Prop where
  /-- The declared media types are all there, each as often as it is declared, ... -/
  perm : p.content.available.Perm b.content.keys
  /-- ... in the order of their kinds, ... -/
  sorted : p.content.available.Pairwise fun t u =>
    Kind.order.idxOf (Kind.of t) ≤ Kind.order.idxOf (Kind.of u)
  /-- ... and those of a kind in the order of declaration. -/
  stable : ∀ k, p.content.available.filter (Kind.of · = k) = b.content.keys.filter (Kind.of · = k)
  /-- The first of them is chosen, with its schema and its kind. -/
  selected : p.content.available.head? = some p.content.selected
  schema : ∃ media, b.content.get? p.content.selected = some media ∧ p.content.schema = media.schema
  kind : p.kind = Kind.of p.content.selected
  /-- Payload and encoding go together, ... -/
  goesWith : GoesWith p.payload p.encoding
  /-- ... and the kind decides on them, ... -/
  fieldBag_iff : p.payload = .fieldBag ↔ p.kind = .multipart
  formMap_iff : p.payload = .formMap ↔ p.kind = .form
  /-- ... with the schema and the model that is known of it. -/
  model_iff : ∀ type isList, p.payload = .model type isList ↔
    p.kind.Modelled ∧ ¬ (p.kind = .xml ∧ SaysText p.content.schema) ∧
      Knows m p.content.schema type isList
  generic_iff : ∀ t, p.payload = .generic t ↔
    (p.kind = .json ∨ p.kind = .xml) ∧ ¬ (p.kind = .xml ∧ SaysText p.content.schema) ∧
      (∀ type isList, ¬ Knows m p.content.schema type isList) ∧ t = genericType p.content.schema
  /-- A generic value has no unknown part, and no model. -/
  known : ∀ t, p.payload = .generic t → t.Known ∧ t.ModelFree
  /-- XML is approximated unless it is a text. -/
  approximate_iff : p.approximate = true ↔ p.kind = .xml ∧ ¬ SaysText p.content.schema
  /-- The header names the chosen media type, and is left to the transport for multipart bodies. -/
  header_of_multipart : p.kind = .multipart → p.contentTypeHeader = none
  header : p.kind ≠ .multipart → p.contentTypeHeader = some p.content.selected
  /-- The rest is taken over. -/
  required : p.required = b.required
  description : p.description = b.description

theorem known_genericType (s : Option Schema) : (genericType s).Known ∧ (genericType s).ModelFree := by
  cases s with
  | none => exact ⟨ValueType.known_any, ValueType.modelFree_any⟩
  | some s => exact ⟨ValueType.known_generic s, ValueType.modelFree_generic s⟩

/-- A choice is made among the ranked media types. -/
theorem eq_of_negotiate {c : Document.Content} {choice : Choice} (h : negotiate c = some choice) :
    choice.available = ranked c ∧ choice.available.head? = some choice.selected ∧
      ∃ media, c.get? choice.selected = some media ∧ choice.schema = media.schema := by
  unfold negotiate at h
  split at h
  · cases h
  · rename_i selected rest hranked
    cases h
    have hmem : selected ∈ c.keys := by
      rw [← (ranked_perm c).mem_iff, hranked]
      exact List.mem_cons_self
    obtain ⟨media, hmedia⟩ := Table.exists_get?_of_mem_keys hmem
    refine ⟨hranked.symm, rfl, media, hmedia, ?_⟩
    show (c.get? selected).bind (·.schema) = media.schema
    rw [hmedia]
    rfl

/-- The fields of a plan that do not depend on its payload. -/
theorem fields_of_plan {m : Models} {b : RequestBody} {p : Plan} (h : plan m b = some p) :
    p.contentTypeHeader = (if p.kind = .multipart then none else some p.content.selected) ∧
      p.approximate = (p.kind = .xml && !isBareString p.content.schema) ∧
      p.required = b.required ∧ p.description = b.description := by
  unfold plan at h
  obtain ⟨content, -, hp⟩ := Option.bind_eq_some_iff.mp h
  dsimp only at hp
  generalize Kind.of content.selected = kind at hp
  generalize encode m content.schema kind = encoded at hp
  obtain ⟨payload, encoding⟩ := encoded
  cases hp
  exact ⟨rfl, rfl, rfl, rfl⟩

/-- **EVERY PLAN IS COHERENT.** -/
theorem coherent_of_plan {m : Models} {b : RequestBody} {p : Plan} (h : plan m b = some p) :
    p.Coherent m b := by
  obtain ⟨hcontent, hkind, hencode⟩ := plan_eq_some h
  obtain ⟨havailable, hselected, hschema⟩ := eq_of_negotiate hcontent
  obtain ⟨hheader, happroximate, hrequired, hdescription⟩ := fields_of_plan h
  have hencodes : Encodes m p.content.schema p.kind p.payload p.encoding := by
    have htable := encodes_encode m p.content.schema p.kind
    rwa [← hencode] at htable
  exact {
    perm := by
      rw [havailable]
      exact ranked_perm b.content
    sorted := by
      simp only [← Kind.rank_eq_idxOf]
      rw [havailable]
      exact pairwise_ranked b.content
    stable := by
      intro k
      rw [havailable]
      exact filter_ranked b.content k
    selected := hselected
    schema := hschema
    kind := hkind
    goesWith := hencodes.goesWith
    fieldBag_iff := hencodes.fieldBag_iff
    formMap_iff := hencodes.formMap_iff
    model_iff := hencodes.model_iff
    generic_iff := hencodes.generic_iff
    known := by
      intro t ht
      obtain ⟨-, -, -, rfl⟩ := (hencodes.generic_iff t).mp ht
      exact known_genericType _
    approximate_iff := by
      rw [happroximate, ← isBareString_iff]
      simp
    header_of_multipart := by
      intro hmultipart
      rw [hheader, if_pos hmultipart]
    header := by
      intro hmultipart
      rw [hheader, if_neg hmultipart]
    required := hrequired
    description := hdescription }

/-- The chosen media type is the first declared one of its kind, and none is of an earlier kind. -/
theorem Plan.Coherent.first {m : Models} {b : RequestBody} {p : Plan} (h : p.Coherent m b) :
    (b.content.keys.filter (Kind.of · = p.kind)).head? = some p.content.selected ∧
      ∀ t ∈ b.content.keys, Kind.order.idxOf p.kind ≤ Kind.order.idxOf (Kind.of t) := by
  obtain ⟨rest, havailable⟩ := List.head?_eq_some_iff.mp h.selected
  constructor
  · rw [← h.stable, havailable, List.filter_cons_of_pos (by simp [h.kind])]
    rfl
  · intro t ht
    have hmem := h.perm.mem_iff.mpr ht
    have hsorted := h.sorted
    rw [havailable] at hmem hsorted
    rw [h.kind]
    rcases List.mem_cons.mp hmem with rfl | hrest
    · exact Nat.le_refl _
    · exact List.rel_of_pairwise_cons hsorted hrest

/-- **PLANS ARE COHERENT.**  There is a plan for a body exactly when it declares content, and then its
fields fit together, to the body and to what the source of models knows.  The kind of a media type
is that of the one that it writes, in any case, with white space around it and with parameters. -/
theorem plans_coherent (m : Models) (b : RequestBody) :
    (plan m b = none ↔ b.content = []) ∧
    (b.content ≠ [] → ∃ p, plan m b = some p ∧ p.Coherent m b) ∧
    ∀ (k : Kind) (mediaType : String), k.mediaType? = some mediaType →
      ∀ t : String, Kind.of t = k ↔ Kind.Spells mediaType t.toList := by
  refine ⟨plan_eq_none m b, fun hcontent => ?_, fun k mediaType hk t => Kind.of_eq_iff_spells hk t⟩
  cases hplan : plan m b with
  | none => exact absurd ((plan_eq_none m b).mp hplan) hcontent
  | some p => exact ⟨p, rfl, coherent_of_plan hplan⟩

/-- The same body in four media types: one of no kind, XML, and JSON in two spellings; the first of
these refers to the model of pets. -/
def petOffers : RequestBody where
  content := [
    ("application/vnd.pets", {}),
    ("application/xml", {}),
    ("Application/JSON ;charset=utf-8", { schema := some (.ref Reply.petReference) }),
    ("application/json", {})]
  required := true

/-- JSON is tried before the others, in the spelling that is declared first, and the body is the
model of pets; a body without content has no plan. -/
theorem plans_coherent_petOffers :
    petOffers.content ≠ [] ∧
    (∃ p, plan Reply.onlyPets petOffers = some p ∧ p.Coherent Reply.onlyPets petOffers ∧
      p.kind = .json ∧ p.content.selected = "Application/JSON ;charset=utf-8" ∧
      p.payload = .model "Pet" false) ∧
    plan Reply.onlyPets { petOffers with content := [] } = none := by
  obtain ⟨-, hplan, -⟩ := plans_coherent Reply.onlyPets petOffers
  obtain ⟨hnone, -, -⟩ := plans_coherent Reply.onlyPets { petOffers with content := [] }
  obtain ⟨p, hp, hcoherent⟩ := hplan (List.cons_ne_nil _ _)
  obtain ⟨hfirst, hleast⟩ := hcoherent.first
  have hkinds : petOffers.content.keys.map Kind.of = [.other, .xml, .json, .json] := by
    decide +kernel
  have hkind : p.kind = .json := by
    have hmem : p.kind ∈ petOffers.content.keys.map Kind.of := by
      rw [hcoherent.kind]
      exact List.mem_map_of_mem (List.mem_filter.mp (List.mem_of_mem_head? hfirst)).1
    have hjson : Kind.order.idxOf p.kind ≤ Kind.order.idxOf Kind.json :=
      hleast "application/json" (by decide +kernel)
    rw [hkinds] at hmem
    simp only [List.mem_cons, List.not_mem_nil, or_false] at hmem
    rcases hmem with h | h | h | h
    · rw [h] at hjson
      exact absurd hjson (by decide)
    · rw [h] at hjson
      exact absurd hjson (by decide)
    · exact h
    · exact h
  have hselected : p.content.selected = "Application/JSON ;charset=utf-8" := by
    rw [hkind] at hfirst
    refine Option.some.inj (hfirst.symm.trans ?_)
    decide +kernel
  refine ⟨List.cons_ne_nil _ _, ⟨p, hp, hcoherent, hkind, hselected, ?_⟩, hnone.mpr rfl⟩
  obtain ⟨media, hmedia, hschema⟩ := hcoherent.schema
  rw [hselected] at hmedia
  cases hmedia
  refine (hcoherent.model_iff "Pet" false).mpr ⟨.inl hkind, ?_, _, _, hschema, rfl, rfl⟩
  rw [hkind]
  nofun

end Body

end ApiMethods
