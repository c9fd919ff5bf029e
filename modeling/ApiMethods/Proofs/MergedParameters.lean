/-
  ApiMethods.Proofs.MergedParameters
  ──────────────────────────────────
  **THE LAST DECLARATION OF A PARAMETER HOLDS, WHOLE, AT THE PLACE OF THE FIRST.**

  The parameters of a path and those of an operation are declared in two lists.  They are merged
  into one table, one declaration after the other, and each entry of the table is built:

      shared   id in path, trace in header
      own      q in query, id in path, payload in body, id in query
      table    id in path (the own one), trace in header, q in query, id in query
      body     payload

  STEP: one more declaration overwrites its entry or adds one behind the others, or becomes the
  body, or leaves no trace.  RUN: the keys of the table are those declared, in the order in which
  they occur first, and each has its last declaration (`Table.keys_ofEntries`,
  `Table.get?_ofEntries`).  `Merges` and `Builds` say what this means for the parameters
  and for the arguments that are built from them.
-/
import Mathlib.Data.List.Nodup
import ApiMethods.Proofs.Merging

namespace ApiMethods

open ApiMethods.Source (OrRef)
open Document (Parameter)

/-! ## §1. A table that is written entry by entry. -/

namespace Table

variable {κ α : Type} [DecidableEq κ]

theorem ofEntries_append_singleton (entries : List (κ × α)) (e : κ × α) :
    ofEntries (entries ++ [e]) = (ofEntries entries).insert e.1 e.2 :=
  List.foldl_append

/-- **Step**: a key that is there keeps its place, another one is put behind the rest. -/
theorem keys_insert (t : Table κ α) (k : κ) (v : α) :
    keys (insert t k v) = if k ∈ keys t then keys t else keys t ++ [k] := by
  induction t with
  | nil => rfl
  | cons e rest ih =>
    obtain ⟨k', v'⟩ := e
    by_cases h : k' = k
    · subst h
      simp [insert, keys]
    · have hkeys : keys (insert ((k', v') :: rest) k v) = k' :: keys (insert rest k v) := by
        simp [insert, keys, h]
      rw [hkeys, ih]
      by_cases hmem : k ∈ keys rest
      · have hthere : k ∈ keys ((k', v') :: rest) := List.mem_cons_of_mem k' hmem
        rw [if_pos hmem, if_pos hthere]
        rfl
      · have hthere : k ∉ keys ((k', v') :: rest) := by
          intro hk
          rcases List.mem_cons.mp hk with hk | hk
          · exact h hk.symm
          · exact hmem hk
        rw [if_neg hmem, if_neg hthere]
        rfl

/-- **THE KEYS ARE THOSE WRITTEN**, in the order in which they occur first. -/
theorem keys_ofEntries [BEq κ] [LawfulBEq κ] (entries : List (κ × α)) :
    keys (ofEntries entries) = (entries.map (·.1)).eraseDups := by
  induction entries using List.reverseRecOn with
  | nil => rfl
  | append_singleton entries e ih =>
    rw [ofEntries_append_singleton, keys_insert, List.map_append, List.map_singleton,
      eraseDups_append_singleton, ih]
    by_cases h : e.1 ∈ entries.map (·.1)
    · rw [if_pos h, if_pos (List.mem_eraseDups.mpr h)]
    · rw [if_neg h, if_neg (mt List.mem_eraseDups.mp h)]

/-- **THE VALUE UNDER A KEY IS THE LAST ONE WRITTEN.** -/
theorem get?_ofEntries (entries : List (κ × α)) (k : κ) :
    get? (ofEntries entries) k = ((entries.filter fun e => e.1 = k).getLast?).map (·.2) := by
  induction entries using List.reverseRecOn with
  | nil => rfl
  | append_singleton entries e ih =>
    rw [ofEntries_append_singleton, get?_insert, List.filter_append, ih]
    by_cases h : e.1 = k
    · simp [h]
    · simp [h]

end Table

namespace Argument

/-! ## §2. What the declarations say. -/

/-- The key of a parameter, if its place is one of the four. -/
def keyOf? (p : Parameter) : Option Key :=
  match p.location with
  | .known l => some (p.name, l)
  | .other _ => none

/-- The keys that are declared, in order and as often as they are. -/
def declaredKeys (ds : List (OrRef Parameter)) : List Key :=
  (ds.filterMap OrRef.inline?).filterMap keyOf?

/-- The last declaration with a key. -/
def last? (ds : List (OrRef Parameter)) (k : Key) : Option Parameter :=
  ((ds.filterMap OrRef.inline?).filter fun p => keyOf? p = some k).getLast?

/-- The last body. -/
def lastBody? (ds : List (OrRef Parameter)) : Option Parameter :=
  ((ds.filterMap OrRef.inline?).filter (·.isBody)).getLast?

/-- Whether a declaration is more than a parameter in a place without a meaning. -/
def counts : OrRef Parameter → Bool
  | .ref _ => true
  | .inline p => (keyOf? p).isSome || p.isBody

theorem keyed?_eq (p : Parameter) : keyed? p = (keyOf? p).map fun k => (k, p) := by
  unfold keyed? keyOf?
  cases p.location <;> rfl

theorem name_of_keyOf? {p : Parameter} {k : Key} (h : keyOf? p = some k) : p.name = k.1 := by
  unfold keyOf? at h
  split at h
  · cases h
    rfl
  · cases h

/-- What merging makes of shared and own declarations. -/
structure Merges (shared own : List (OrRef Parameter)) (m : Merged) : Prop where
  /-- The keys are those declared, in the order in which they occur first. -/
  keys : m.parameters.keys = (declaredKeys (shared ++ own)).eraseDups
  /-- No key is taken twice. -/
  distinct : m.parameters.Distinct
  /-- Under each key stands its last declaration, whole. -/
  last : ∀ k, m.parameters.get? k = last? (shared ++ own) k
  /-- What the operation declares takes the place of what it shares. -/
  overriding : ∀ k p, last? own k = some p → m.parameters.get? k = some p
  /-- The body is the last one declared. -/
  body : m.body = lastBody? (shared ++ own)
  /-- Parameters in other places leave no trace. -/
  traceless : Merged.of (shared.filter counts) (own.filter counts) = .ok m

/-- What building makes of merged parameters. -/
structure Builds (m : Merged) (args : Arguments) : Prop where
  /-- The arguments in a place are built from the parameters there, one by one and in order. -/
  lists : ∀ location, List.Forall₂ (fun e a => build e.2 location = .ok a)
    (m.parameters.filter fun e => e.1.2 = location) (args.inLocation location)
  /-- No two arguments share a key. -/
  distinct : (args.toList.map key).Nodup
  /-- An argument is found by its name and place, and nothing else is found there. -/
  find : ∀ name location a,
    args.find? name location = some a ↔ a ∈ args.toList ∧ a.key = (name, location)
  /-- Nothing is found under any other key. -/
  missing : ∀ name location,
    args.find? name location = none ↔ (name, location) ∉ m.parameters.keys

/-! ## §3. Merging. -/

theorem last?_append (ds ds' : List (OrRef Parameter)) (k : Key) :
    last? (ds ++ ds') k = (last? ds' k).or (last? ds k) := by
  unfold last?
  rw [List.filterMap_append, List.filter_append, List.getLast?_append]

/-- The declarations that have a key, under their keys. -/
theorem map_fst_filterMap_keyed? (ps : List Parameter) :
    (ps.filterMap keyed?).map (·.1) = ps.filterMap keyOf? := by
  rw [List.map_filterMap]
  refine List.filterMap_congr fun p _ => ?_
  rw [keyed?_eq]
  cases keyOf? p <;> rfl

/-- Of the declarations under their keys, those with one key are the declarations that have it. -/
theorem filter_filterMap_keyed? (ps : List Parameter) (k : Key) :
    ((ps.filterMap keyed?).filter fun e => e.1 = k).map (·.2)
      = ps.filter fun p => keyOf? p = some k := by
  induction ps with
  | nil => rfl
  | cons p rest ih =>
    cases hp : keyOf? p with
    | none =>
      have hkeyed : keyed? p = none := by rw [keyed?_eq, hp]; rfl
      rw [List.filterMap_cons_none hkeyed, List.filter_cons_of_neg (by simp [hp])]
      exact ih
    | some k' =>
      have hkeyed : keyed? p = some (k', p) := by rw [keyed?_eq, hp]; rfl
      rw [List.filterMap_cons_some hkeyed]
      by_cases hk : k' = k
      · rw [List.filter_cons_of_pos (by simpa using hk), List.map_cons, ih,
          List.filter_cons_of_pos (by simpa [hp] using hk)]
      · rw [List.filter_cons_of_neg (by simpa using hk), ih,
          List.filter_cons_of_neg (by simpa [hp] using hk)]

/-- **Step**: a declaration that does not count changes nothing. -/
theorem add_of_not_counts {p : Parameter} (h : counts (.inline p) = false) (m : Merged) :
    m.add p = m := by
  simp only [counts, Bool.or_eq_false_iff, Option.isSome_eq_false_iff, Option.isNone_iff_eq_none] at h
  have hkeyed : keyed? p = none := by rw [keyed?_eq, h.1]; rfl
  rw [Merged.add_eq, hkeyed, h.2]
  rfl

/-- **Run**: without the declarations that do not count, merging goes the same way. -/
theorem declared_filter_counts (ds : List (OrRef Parameter)) (m : Merged) :
    (Merged.declared (ds.filter counts)).map (fun ps => ps.foldl Merged.add m)
      = (Merged.declared ds).map fun ps => ps.foldl Merged.add m := by
  rw [Merged.declared_filter fun _ => rfl]
  cases Merged.declared ds with
  | error reason => rfl
  | ok ps =>
    show Except.ok ((ps.filter _).foldl Merged.add m) = .ok (ps.foldl Merged.add m)
    have hadd : (fun (m : Merged) p => if counts (.inline p) then m.add p else m) = Merged.add := by
      funext m p
      cases hp : counts (.inline p) with
      | true => rfl
      | false => exact (add_of_not_counts hp m).symm
    rw [List.foldl_filter, hadd]

/-- **WHAT MERGING YIELDS.** -/
theorem merges_of_ok {shared own : List (OrRef Parameter)} {m : Merged}
    (h : Merged.of shared own = .ok m) : Merges shared own m := by
  have htable : m.parameters
      = .ofEntries (((shared ++ own).filterMap OrRef.inline?).filterMap keyed?) := by
    rw [Merged.eq_of_lists h]
  have hlast : ∀ k, m.parameters.get? k = last? (shared ++ own) k := by
    intro k
    rw [htable, Table.get?_ofEntries, ← List.getLast?_map, filter_filterMap_keyed?]
    rfl
  refine ⟨?_, ?_, hlast, fun k p hp => ?_, ?_, ?_⟩
  · rw [htable, Table.keys_ofEntries, map_fst_filterMap_keyed?]
    rfl
  · rw [htable]
    exact Table.distinct_ofEntries _
  · rw [hlast, last?_append, hp]
    rfl
  · rw [Merged.eq_of_lists h]
    rfl
  · rw [← h]
    unfold Merged.of
    rw [← List.filter_append]
    exact declared_filter_counts _ _

/-! ## §4. Building. -/

section Building

variable {m : Merged} {args : Arguments}

theorem mem_toList {a : Argument} : a ∈ args.toList ↔ ∃ location, a ∈ args.inLocation location := by
  simp only [Arguments.toList, List.mem_append]
  constructor
  · rintro (((h | h) | h) | h)
    · exact ⟨.path, h⟩
    · exact ⟨.query, h⟩
    · exact ⟨.header, h⟩
    · exact ⟨.cookie, h⟩
  · rintro ⟨location, h⟩
    cases location
    · exact .inl (.inl (.inl h))
    · exact .inl (.inl (.inr h))
    · exact .inl (.inr h)
    · exact .inr h

/-- What is built in a place travels there. -/
theorem location_of_mem_inLocation (h : buildAll m = .ok args) {location : Location} {a : Argument}
    (ha : a ∈ args.inLocation location) : a.location = location := by
  obtain ⟨l, rfl, -⟩ := forall₂_of_buildAll h
  rw [inLocation_ofList] at ha
  exact of_decide_eq_true (List.mem_filter.mp ha).2

theorem mem_inLocation (h : buildAll m = .ok args) {location : Location} {a : Argument} :
    a ∈ args.inLocation location ↔ a ∈ args.toList ∧ a.location = location := by
  constructor
  · exact fun ha => ⟨mem_toList.mpr ⟨location, ha⟩, location_of_mem_inLocation h ha⟩
  · rintro ⟨ha, hlocation⟩
    obtain ⟨location', ha⟩ := mem_toList.mp ha
    rwa [← (location_of_mem_inLocation h ha).symm.trans hlocation]

variable (hkeys : ∀ e ∈ m.parameters, keyOf? e.2 = some e.1)
include hkeys

/-- The arguments in a place have the keys of the parameters there. -/
theorem map_key_inLocation (h : buildAll m = .ok args) (location : Location) :
    (args.inLocation location).map key
      = Table.keys (m.parameters.filter fun e => e.1.2 = location) := by
  have hbuilt : ∀ (e : Key × Parameter) (a : Argument), build e.2 location = .ok a →
      a.key = (e.2.name, location) := fun e a hea =>
    Prod.ext (of_build hea).1 (of_build hea).2.1
  rw [map_eq_of_forall₂ hbuilt (forall₂_inLocation h location)]
  refine List.map_congr_left fun e he => ?_
  obtain ⟨hmem, hlocation⟩ := List.mem_filter.mp he
  have hname : e.2.name = e.1.1 := name_of_keyOf? (hkeys e hmem)
  exact Prod.ext hname (of_decide_eq_true hlocation).symm

/-- No two arguments share a key when no two parameters do. -/
theorem nodup_keys (h : buildAll m = .ok args) (hdistinct : m.parameters.Distinct) :
    (args.toList.map key).Nodup := by
  have hplaces : args.toList.map key
      = [Location.path, .query, .header, .cookie].flatMap fun l => (args.inLocation l).map key := by
    simp [Arguments.toList, Arguments.inLocation]
  rw [hplaces, List.nodup_flatMap]
  constructor
  · intro location _
    rw [map_key_inLocation hkeys h]
    exact List.Nodup.sublist (List.filter_sublist.map _) hdistinct
  · -- arguments of two places differ in their place
    have hne : [Location.path, .query, .header, .cookie].Pairwise (· ≠ ·) := by decide
    refine hne.imp fun {l l'} hll' k hk hk' => hll' ?_
    obtain ⟨a, ha, rfl⟩ := List.mem_map.mp hk
    obtain ⟨a', ha', hkey⟩ := List.mem_map.mp hk'
    calc l = a.location := (location_of_mem_inLocation h ha).symm
      _ = a'.location := (congrArg Prod.snd hkey).symm
      _ = l' := location_of_mem_inLocation h ha'

/-- **WHAT BUILDING YIELDS.** -/
theorem builds_of_ok (h : buildAll m = .ok args) (hdistinct : m.parameters.Distinct) :
    Builds m args := by
  have hnodup := nodup_keys hkeys h hdistinct
  refine ⟨forall₂_inLocation h, hnodup, fun name location a => ?_, fun name location => ?_⟩
  · unfold Arguments.find?
    constructor
    · intro hfind
      have hname : a.name = name := by simpa using List.find?_some hfind
      obtain ⟨ha, hlocation⟩ := (mem_inLocation h).mp (List.mem_of_find?_eq_some hfind)
      exact ⟨ha, Prod.ext hname hlocation⟩
    · rintro ⟨ha, hkey⟩
      obtain ⟨hname, hlocation⟩ := Prod.mk.inj hkey
      have hmem := (mem_inLocation h).mpr ⟨ha, hlocation⟩
      cases hfind : (args.inLocation location).find? (·.name = name) with
      | none => exact absurd hname (by simpa using List.find?_eq_none.mp hfind a hmem)
      | some b =>
        -- what is found has the same key, so it is the same
        have hb : b.name = name := by simpa using List.find?_some hfind
        obtain ⟨hbmem, hblocation⟩ := (mem_inLocation h).mp (List.mem_of_find?_eq_some hfind)
        have hsame : b.key = a.key := (Prod.ext hb hblocation : b.key = (name, location)).trans hkey.symm
        rw [List.inj_on_of_nodup_map hnodup hbmem ha hsame]
  · have hfound : (name, location) ∈ (args.inLocation location).map key
        ↔ (name, location) ∈ m.parameters.keys := by
      rw [map_key_inLocation hkeys h]
      simp [Table.keys]
    rw [← hfound]
    unfold Arguments.find?
    rw [List.find?_eq_none]
    constructor
    · intro hnone hmem
      obtain ⟨a, ha, hkey⟩ := List.mem_map.mp hmem
      exact hnone a ha (decide_eq_true (congrArg Prod.fst hkey))
    · intro hnone a ha hname
      refine hnone (List.mem_map.mpr ⟨a, ha, ?_⟩)
      exact Prod.ext (of_decide_eq_true hname) (location_of_mem_inLocation h ha)

end Building

/-! ## §5. From the declarations to the arguments. -/

/-- **MERGING AND BUILDING.**  Merging fails exactly when some declaration is a reference, and it names
the first one.  Otherwise the last declaration of each parameter holds, whole, at the place of the
first; and what is then built are these parameters, place by place, each found under its key. -/
theorem merging_and_building (shared own : List (OrRef Parameter)) :
    ((∃ m, Merged.of shared own = .ok m) ↔ ∀ target, OrRef.ref target ∉ shared ++ own) ∧
    (∀ reason, Merged.of shared own = .error reason ↔
      ∃ before target after, shared ++ own = before ++ .ref target :: after ∧
        (∀ target', OrRef.ref target' ∉ before) ∧ reason = .unresolvedReference target) ∧
    ∀ m, Merged.of shared own = .ok m →
      Merges shared own m ∧ ∀ args, buildAll m = .ok args → Builds m args := by
  have href : ∀ p : OrRef Parameter, p.target?.map SkipReason.unresolvedReference = none
      ↔ ∀ target, OrRef.ref target ≠ p := by
    intro p
    cases p <;> simp [OrRef.target?]
  refine ⟨?_, fun reason => ?_, fun m hm => ?_⟩
  · rw [← fault?_eq_none, Merged.fault?_of_lists, List.findSome?_eq_none_iff]
    constructor
    · exact fun h target hmem => (href _).mp (h _ hmem) target rfl
    · exact fun h p hp => (href p).mpr fun target heq => h target (heq ▸ hp)
  · rw [← fault?_eq_some, Merged.fault?_of_lists, List.findSome?_eq_some_iff]
    constructor
    · rintro ⟨before, p, after, heq, hp, hbefore⟩
      cases p with
      | inline p => cases hp
      | ref target =>
        cases hp
        exact ⟨before, target, after, heq,
          fun target' hmem => (href _).mp (hbefore _ hmem) target' rfl, rfl⟩
    · rintro ⟨before, target, after, heq, hbefore, rfl⟩
      exact ⟨before, .ref target, after, heq, rfl,
        fun p hp => (href p).mpr fun target' h => hbefore target' (h ▸ hp)⟩
  · have hmerges := merges_of_ok hm
    refine ⟨hmerges, fun args hargs => builds_of_ok (fun e he => ?_) hargs hmerges.distinct⟩
    -- an entry is the last declaration with its key, so it has this key
    have hlast : last? (shared ++ own) e.1 = some e.2 := by
      rw [← hmerges.last, Table.get?_of_mem hmerges.distinct he]
    have hmem := List.mem_of_getLast? hlast
    exact of_decide_eq_true (List.mem_filter.mp hmem).2

/-- A path has an id and a trace. -/
def sharedParameters : List (OrRef Parameter) :=
  [.inline { name := "id", location := .known .path, type := some .string,
             description := some "shared" },
   .inline { name := "trace", location := .known .header, type := some .string }]

/-- One of its operations says more of the id, and has two queries, a body, and a field of a form. -/
def ownParameters : List (OrRef Parameter) :=
  [.inline { name := "q", location := .known .query, type := some .string },
   .inline { name := "id", location := .known .path, type := some .integer,
             description := some "own" },
   .inline { name := "payload", location := .other "body" },
   .inline { name := "id", location := .known .query, type := some .boolean },
   .inline { name := "file", location := .other "formData" }]

/-- Its four parameters and its body; with a reference among them there would be neither. -/
theorem merging_and_building_ownParameters :
    (∃ m args, Merged.of sharedParameters ownParameters = .ok m ∧ buildAll m = .ok args ∧
      Merges sharedParameters ownParameters m ∧ Builds m args ∧
      m.parameters.keys = [("id", .path), ("trace", .header), ("q", .query), ("id", .query)] ∧
      m.body.map (·.name) = some "payload" ∧
      args.path.map (·.description) = [some "own"] ∧
      args.query.map (·.name) = ["q", "id"] ∧
      (args.find? "trace" .header).isSome ∧ args.find? "trace" .query = none) ∧
    Merged.of (sharedParameters ++ [.ref "#/parameters/a"]) (.ref "#/parameters/b" :: ownParameters)
      = .error (.unresolvedReference "#/parameters/a") := by
  have hspec := merging_and_building sharedParameters ownParameters
  have hrefs := merging_and_building (sharedParameters ++ [.ref "#/parameters/a"])
    (.ref "#/parameters/b" :: ownParameters)
  obtain ⟨m, args, hm, hargs, hvalues⟩ :
      ∃ m args, Merged.of sharedParameters ownParameters = .ok m ∧ buildAll m = .ok args ∧
        args.path.map (·.description) = [some "own"] ∧
        args.query.map (·.name) = ["q", "id"] ∧
        (args.find? "trace" .header).isSome ∧ args.find? "trace" .query = none :=
    ⟨_, _, rfl, rfl, rfl, rfl, rfl, rfl⟩
  obtain ⟨hmerges, hbuild⟩ := hspec.2.2 m hm
  have hbuilds := hbuild args hargs
  constructor
  · refine ⟨m, args, hm, hargs, hmerges, hbuilds, ?_, ?_, hvalues⟩
    · rw [hmerges.keys]
      decide
    · rw [hmerges.body]
      decide
  · refine (hrefs.2.1 _).mpr ⟨sharedParameters, _, _, List.append_assoc _ _ _, ?_, rfl⟩
    intro target h
    simp [sharedParameters] at h

end Argument

end ApiMethods
