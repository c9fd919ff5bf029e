/-
  ApiMethods.Proofs.DistinctKeys
  ──────────────────────────────
  **IN A DOCUMENT THAT WAS READ, NO KEY IS TAKEN TWICE.**

  A table can hold two entries under one key, but a text cannot make such a table: a repeated key
  is written over its first entry.  `Reader.Yields` says what is true of everything that a reader
  yields; it is carried from the readers of tables and path items to the reader of documents.

  A document whose keys are distinct is `Keyed`.  Two operations of it never share a place, so
  what holds at the place of an operation is what holds of the operation (`Keyed.holdsAt_iff`).
-/
import ApiMethods.Document.Load
import ApiMethods.Proofs.Accounts
import ApiMethods.Proofs.OwnSecurity

namespace ApiMethods

open ApiMethods.Source (Reader Fields Fault Format Place Node)
open Document (Components Operation PathItem Paths)

/-! ## §1. What readers yield. -/

namespace Source.Reader

variable {α β : Type}

/-- Everything that a reader yields has a property. -/
def Yields (r : Reader α) (P : α → Prop) : Prop := ∀ p n a, r p n = .ok a → P a

theorem Yields.map {r : Reader α} {f : α → β} {P : β → Prop} (h : r.Yields fun a => P (f a)) :
    (r.map f).Yields P := by
  intro p n b hb
  obtain ⟨a, ha, rfl⟩ := map_eq_ok hb
  exact h p n a ha

theorem Yields.option {r : Reader α} {P : α → Prop} (h : r.Yields P) :
    r.option.Yields fun o => ∀ a, o = some a → P a := by
  have hsome : ∀ (p : Place) (n : Node) (o : Option α), (r p n).map some = .ok o →
      ∀ a, o = some a → P a := by
    rintro p n o hn a rfl
    obtain ⟨a', ha', heq⟩ := map_eq_ok hn
    cases heq
    exact h p n a ha'
  intro p n o ho
  unfold Reader.option at ho
  obtain ⟨n', -, ho⟩ := bind_eq_ok ho
  split at ho
  · rename_i s
    obtain ⟨nothing, -, ho⟩ := bind_eq_ok ho
    split at ho
    · cases ho
      rintro a ⟨⟩
    · exact hsome p (.scalar s) o ho
  · exact hsome p n' o ho

end Source.Reader

namespace Source.Fields

variable {α : Type} {f : Fields} {i : Nat} {r : Reader α} {P : α → Prop}

theorem of_optional (h : r.Yields P) {o : Option α} (ho : f.optional i r = .ok o) :
    ∀ a, o = some a → P a := by
  unfold optional at ho
  split at ho
  · exact h.option _ _ o ho
  · split at ho
    · cases ho
    · cases ho
      rintro a ⟨⟩

theorem of_defaulted (h : r.Yields P) {default a : α} (hdefault : P default)
    (ha : f.defaulted i default r = .ok a) : P a := by
  unfold defaulted at ha
  split at ha
  · exact h _ _ a ha
  · cases ha
    exact hdefault

end Source.Fields

/-! ## §2. Tables and path items. -/

/-- The entries of a map are read one by one. -/
theorem Source.Reader.Yields.entries {α β : Type} {key : Reader α} {r : Reader β} {P : β → Prop}
    (h : r.Yields P) : (Reader.entries key r).Yields fun es => ∀ e ∈ es, P e.2 := by
  intro p n es hes
  unfold Reader.entries at hes
  obtain ⟨n', -, hes⟩ := bind_eq_ok hes
  split at hes
  · obtain ⟨p', -, hes⟩ := bind_eq_ok hes
    intro e he
    obtain ⟨⟨k, v⟩, -, hv⟩ := exists_of_mem_mapM hes he
    obtain ⟨k', -, hv⟩ := bind_eq_ok hv
    obtain ⟨v', hread, hv⟩ := bind_eq_ok hv
    cases hv
    exact h p' v v' hread
  · split at hes
    · cases hes
      exact fun e he => absurd he List.not_mem_nil
    · cases hes
  · cases hes

/-- **A TABLE THAT WAS READ HAS DISTINCT KEYS.** -/
theorem Source.Reader.yields_distinct {α : Type} (r : Reader α) :
    (Reader.table r).Yields Table.Distinct :=
  Yields.map fun _ _ es _ => Table.distinct_ofEntries es

/-- The values of a table are values that were read. -/
theorem Source.Reader.Yields.table {α : Type} {r : Reader α} {P : α → Prop} (h : r.Yields P) :
    (Reader.table r).Yields fun t => ∀ e ∈ t, P e.2 :=
  Yields.map fun p n es hes e he => h.entries p n es hes e (Table.mem_ofEntries he)

namespace Document

/-- Each verb is taken once in a path item that was read. -/
theorem PathItem.yields_distinct : PathItem.reader.Yields fun item => item.operations.Distinct := by
  refine Reader.Yields.map fun p n entries _ => ?_
  -- whatever the entries are, they are written one over the other
  suffices hfold : ∀ item : PathItem, item.operations.Distinct →
      (entries.foldl PathItem.add item).operations.Distinct from hfold {} Table.distinct_nil
  clear * -
  induction entries with
  | nil => exact fun item h => h
  | cons entry rest ih =>
    intro item h
    refine ih _ ?_
    cases entry with
    | operation verb o => exact h.insert verb o
    | _ => exact h

theorem Components.yields_distinct : Components.reader.Yields fun c => c.securitySchemes.Distinct := by
  intro p n c hc
  unfold Components.reader at hc
  obtain ⟨f, -, hc⟩ := bind_eq_ok hc
  obtain ⟨schemas, -, hc⟩ := bind_eq_ok hc
  obtain ⟨responses, -, hc⟩ := bind_eq_ok hc
  obtain ⟨parameters, -, hc⟩ := bind_eq_ok hc
  obtain ⟨bodies, -, hc⟩ := bind_eq_ok hc
  obtain ⟨headers, -, hc⟩ := bind_eq_ok hc
  obtain ⟨schemes, hschemes, hc⟩ := bind_eq_ok hc
  cases hc
  exact Fields.of_defaulted (Reader.yields_distinct _) Table.distinct_nil hschemes

/-! ## §3. Documents. -/

/-- No two schemes of a document share a name, and no two of its operations share a place. -/
structure Keyed (d : Document) : Prop where
  schemes : d.declaredSchemes.Distinct
  places : ∀ ps, d.paths = some ps → (ps.declared.map Declared.place).Nodup

/-- Places are distinct where paths are, and verbs in each path item. -/
theorem Paths.nodup_places {ps : Paths} (hpaths : Table.Distinct ps)
    (hverbs : ∀ e ∈ ps, e.2.operations.Distinct) : (ps.declared.map Declared.place).Nodup := by
  induction ps with
  | nil => exact List.nodup_nil
  | cons e rest ih =>
    have hdistinct : (e.1 :: Table.keys rest).Nodup := hpaths
    obtain ⟨hfresh, hrest⟩ := List.nodup_cons.mp hdistinct
    have hhere : (e.2.operations.keys.map fun verb => (e.1, verb)).Nodup :=
      (hverbs e List.mem_cons_self).map fun _ _ heq => congrArg Prod.snd heq
    have hthere := ih hrest fun e' he' => hverbs e' (List.mem_cons_of_mem _ he')
    have hsplit : (Paths.declared (e :: rest)).map Declared.place
        = (e.2.operations.keys.map fun verb => (e.1, verb))
          ++ (Paths.declared rest).map Declared.place := by
      simp [Paths.declared, Table.keys, Declared.place]
    rw [hsplit]
    refine List.nodup_append.mpr ⟨hhere, hthere, ?_⟩
    -- a place further on stands under another path
    rintro place hplace place' hplace' rfl
    obtain ⟨verb, -, rfl⟩ := List.mem_map.mp hplace
    obtain ⟨x, hx, hxplace⟩ := List.mem_map.mp hplace'
    obtain ⟨e', he', hx⟩ := List.mem_flatMap.mp hx
    obtain ⟨o, -, rfl⟩ := List.mem_map.mp hx
    have hpath : e'.1 = e.1 := (Prod.mk.inj hxplace).1
    rw [← hpath] at hfresh
    exact hfresh (List.mem_map_of_mem he')

/-- No key is taken twice among the schemes, the paths, and the verbs under each path. -/
structure Unambiguous (d : Document) : Prop where
  schemes : d.declaredSchemes.Distinct
  paths : ∀ ps, d.paths = some ps → Table.Distinct ps
  verbs : ∀ ps, d.paths = some ps → ∀ e ∈ ps, e.2.operations.Distinct

theorem Unambiguous.keyed {d : Document} (h : d.Unambiguous) : d.Keyed where
  schemes := h.schemes
  places := fun ps hps => Paths.nodup_places (h.paths ps hps) (h.verbs ps hps)

theorem yields_unambiguous : Document.reader.Yields Unambiguous := by
  intro p n d hd
  unfold Document.reader at hd
  obtain ⟨f, -, hd⟩ := bind_eq_ok hd
  obtain ⟨openapi, -, hd⟩ := bind_eq_ok hd
  obtain ⟨swagger, -, hd⟩ := bind_eq_ok hd
  obtain ⟨info, -, hd⟩ := bind_eq_ok hd
  obtain ⟨paths, hpaths, hd⟩ := bind_eq_ok hd
  obtain ⟨components, hcomponents, hd⟩ := bind_eq_ok hd
  obtain ⟨security, -, hd⟩ := bind_eq_ok hd
  obtain ⟨definitions, -, hd⟩ := bind_eq_ok hd
  obtain ⟨parameters, -, hd⟩ := bind_eq_ok hd
  obtain ⟨responses, -, hd⟩ := bind_eq_ok hd
  obtain ⟨schemes, hschemes, hd⟩ := bind_eq_ok hd
  obtain ⟨consumes, -, hd⟩ := bind_eq_ok hd
  cases hd
  constructor
  · unfold declaredSchemes components3
    split
    · rename_i c hc
      split at hc
      · cases hc
      · exact Fields.of_optional Components.yields_distinct hcomponents c hc
    · exact Fields.of_defaulted (Reader.yields_distinct _) Table.distinct_nil hschemes
  · exact Fields.of_optional (Reader.yields_distinct _) hpaths
  · exact Fields.of_optional PathItem.yields_distinct.table hpaths

/-- The version is only looked at. -/
theorem eq_of_checkVersion {d d' : Document} (h : d.checkVersion = .ok d') : d' = d := by
  unfold checkVersion at h
  split at h
  · split at h <;> cases h
    rfl
  · split at h <;> cases h
    rfl
  · cases h

/-- A document is admitted when it is read off the tree of the text and its version is
    understood. -/
theorem load_eq_ok_iff {f : Format} {text : String} {d : Document} :
    load f text = .ok d ↔
      (∃ o n, f.document? text = some (o, n) ∧ reader.run o n = .ok d) ∧
        d.checkVersion = .ok d := by
  constructor
  · intro h
    unfold load Format.read at h
    cases hdocument : f.document? text with
    | none =>
      rw [hdocument] at h
      cases h
    | some root =>
      obtain ⟨o, n⟩ := root
      rw [hdocument] at h
      dsimp only at h
      split at h
      · rename_i d' hread
        cases eq_of_checkVersion h
        exact ⟨⟨o, n, rfl, hread⟩, h⟩
      · cases h
  · rintro ⟨⟨o, n, hdocument, hread⟩, hversion⟩
    unfold load Format.read
    rw [hdocument]
    dsimp only
    rw [hread]
    exact hversion

theorem unambiguous_of_load {f : Format} {text : String} {d : Document}
    (h : load f text = .ok d) : d.Unambiguous := by
  obtain ⟨⟨o, n, -, hread⟩, -⟩ := load_eq_ok_iff.mp h
  exact yields_unambiguous _ _ d hread

/-- **A DOCUMENT THAT IS ADMITTED IS KEYED.** -/
theorem keyed_of_load {f : Format} {text : String} {d : Document} (h : load f text = .ok d) :
    d.Keyed :=
  (unambiguous_of_load h).keyed

/-- In a keyed document, what holds at the place of an operation is what holds of the operation. -/
theorem Keyed.holdsAt_iff {d : Document} (h : d.Keyed) {ps : Paths} (hps : d.paths = some ps)
    {x : Declared} (hx : x ∈ ps.declared) (P : Operation → Prop) :
    d.HoldsAt x.place P ↔ P x.operation := by
  constructor
  · exact fun hholds => hholds ps hps x hx rfl
  · intro hP ps' hps' y hy hplace
    have heq : ps' = ps := Option.some.inj (hps'.symm.trans hps)
    subst heq
    have hxy : y = x := List.inj_on_of_nodup_map (h.places ps' hps) hy hx hplace
    rw [hxy]
    exact hP

end Document

end ApiMethods
