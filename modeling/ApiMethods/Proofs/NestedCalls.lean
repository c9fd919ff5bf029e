/-
  ApiMethods.Proofs.NestedCalls
  ─────────────────────────────
  **INLINING ENDS ON EVERY DOCUMENT AND LEAVES NO TRACE.**

  Definitions may refer to themselves or to each other, one may pass on to another, and every one
  can be referred to in four spellings.  Inlining ends all the same: a call that is nested in
  another works on a smaller schema, or has one reference more in progress.

  A RUN is a call from its start to its end, with the working set handed on from each nested call
  to the next as it was left.  Nothing in its rules says that a call puts back what it took:

      seen, dangling    a reference that is in progress, or points nowhere, is kept
      expand            a reference joins the working set, what is behind it is inlined, it leaves
      inline            the properties are inlined one after the other, and then the items

  From every working set and schema there is exactly one run; it ends in the same working set, and
  with the schema that is computed (`run_iff`).  No calls nest endlessly (`wellFounded_calls`).
  Along a CHAIN of nested calls no reference is expanded twice (`nodup_expansions`), so there are at
  most four expansions for every definition.
-/
import Mathlib.Data.List.Chain
import Mathlib.Data.List.Nodup
import Mathlib.Data.List.Perm.Subperm
import ApiMethods.Proofs.Resolution

namespace ApiMethods.Document

/-! ## §1. Runs. -/

mutual

/-- A run on a schema: the references in progress before it, the schema, what this becomes, and the
    references in progress after it. -/
inductive Run (d : Document) : List String → Schema → Schema → List String → Prop
  /-- A reference in progress is kept. -/
  | seen {visited : List String} {target : String} : target ∈ visited →
      Run d visited (.ref target) (.ref target) visited
  /-- A reference that points nowhere is kept. -/
  | dangling {visited : List String} {target : String} : target ∉ visited →
      d.schemaAt? target = none → Run d visited (.ref target) (.ref target) visited
  /-- Any other reference is in progress while the body that it points at is inlined. -/
  | expand {visited after : List String} {target : String} {b : SchemaBody Schema} {s : Schema} :
      target ∉ visited → d.schemaAt? target = some b →
      Run d (target :: visited) (.inline b) s after →
      Run d visited (.ref target) s (after.erase target)
  /-- Of a body the properties and the items are inlined. -/
  | inline {visited middle after : List String} {b : SchemaBody Schema}
      {properties : Table String Schema} {items : Option Schema} :
      RunTable d visited b.properties properties middle → RunItems d middle b.items items after →
      Run d visited (.inline b) (.inline { b with properties := properties, items := items }) after

/-- A run on the values of a table, one after the other. -/
inductive RunTable (d : Document) :
    List String → Table String Schema → Table String Schema → List String → Prop
  | nil {visited : List String} : RunTable d visited [] [] visited
  | cons {visited middle after : List String} {key : String} {s s' : Schema}
      {rest rest' : Table String Schema} :
      Run d visited s s' middle → RunTable d middle rest rest' after →
      RunTable d visited ((key, s) :: rest) ((key, s') :: rest') after

/-- A run on the items, if there are any. -/
inductive RunItems (d : Document) :
    List String → Option Schema → Option Schema → List String → Prop
  | none {visited : List String} : RunItems d visited none none visited
  | some {visited after : List String} {s s' : Schema} : Run d visited s s' after →
      RunItems d visited (some s) (some s') after

end

variable {d : Document}

/-! ## §2. There is a run. -/

theorem runTable_mapValues {visited : List String} {f : Schema → Schema} {t : Table String Schema}
    (h : ∀ s ∈ Table.values t, d.Run visited s (f s) visited) :
    d.RunTable visited t (Table.mapValues f t) visited := by
  induction t with
  | nil => exact .nil
  | cons e rest ih =>
    obtain ⟨key, s⟩ := e
    have hfirst : d.Run visited s (f s) visited := h s List.mem_cons_self
    have hrest : d.RunTable visited rest (Table.mapValues f rest) visited :=
      ih fun s hs => h s (List.mem_cons_of_mem _ hs)
    exact .cons hfirst hrest

theorem runItems_map {visited : List String} {f : Schema → Schema} {o : Option Schema}
    (h : ∀ s ∈ o, d.Run visited s (f s) visited) : d.RunItems visited o (o.map f) visited := by
  cases o with
  | none => exact .none
  | some s => exact .some (h s rfl)

/-- **THERE IS A RUN**, and it comes back to the working set that it started with. -/
theorem run_inlineFrom (d : Document) (visited : List String) (s : Schema) :
    d.Run visited s (d.inlineFrom visited s) visited := by
  induction visited, s using inlineFrom_induct d with
  | seen visited target hv =>
    rw [inlineFrom_ref, if_pos hv]
    exact .seen hv
  | dangling visited target hv hnone =>
    rw [inlineFrom_ref, if_neg hv, hnone]
    exact .dangling hv hnone
  | expand visited target b hv hb ih =>
    rw [inlineFrom_ref, if_neg hv, hb]
    have hrun : d.Run visited (.ref target) (d.inlineFrom (target :: visited) (.inline b))
        ((target :: visited).erase target) := .expand hv hb ih
    rw [List.erase_cons_head] at hrun
    exact hrun
  | inline visited b ih =>
    rw [inlineFrom_inline]
    apply Run.inline
    · exact runTable_mapValues fun s hs => ih s (List.mem_append_left _ hs)
    · exact runItems_map fun s hs => ih s (List.mem_append_right _ (Option.mem_toList.mpr hs))

/-! ## §3. There is no other. -/

mutual

/-- A run ends with what is computed, in the working set that it started with. -/
theorem Run.eq_inlineFrom {visited after : List String} {s s' : Schema} :
    d.Run visited s s' after → s' = d.inlineFrom visited s ∧ after = visited
  | .seen hv => by
      rw [inlineFrom_ref, if_pos hv]
      exact ⟨rfl, rfl⟩
  | .dangling hv hnone => by
      rw [inlineFrom_ref, if_neg hv, hnone]
      exact ⟨rfl, rfl⟩
  | .expand hv hb hrun => by
      obtain ⟨rfl, rfl⟩ := hrun.eq_inlineFrom
      rw [inlineFrom_ref, if_neg hv, hb, List.erase_cons_head]
      exact ⟨rfl, rfl⟩
  | .inline hproperties hitems => by
      obtain ⟨rfl, rfl⟩ := hproperties.eq_mapValues
      obtain ⟨rfl, rfl⟩ := hitems.eq_map
      rw [inlineFrom_inline]
      exact ⟨rfl, rfl⟩

theorem RunTable.eq_mapValues {visited after : List String} {t t' : Table String Schema} :
    d.RunTable visited t t' after →
      t' = Table.mapValues (d.inlineFrom visited) t ∧ after = visited
  | .nil => ⟨rfl, rfl⟩
  | .cons hfirst hrest => by
      -- the rest starts in the set that the first value has left, which is the set it was given
      obtain ⟨rfl, rfl⟩ := hfirst.eq_inlineFrom
      obtain ⟨rfl, rfl⟩ := hrest.eq_mapValues
      exact ⟨rfl, rfl⟩

theorem RunItems.eq_map {visited after : List String} {o o' : Option Schema} :
    d.RunItems visited o o' after → o' = o.map (d.inlineFrom visited) ∧ after = visited
  | .none => ⟨rfl, rfl⟩
  | .some hrun => by
      obtain ⟨rfl, rfl⟩ := hrun.eq_inlineFrom
      exact ⟨rfl, rfl⟩

end

/-- **THERE IS EXACTLY ONE RUN.** -/
theorem run_iff {visited after : List String} {s s' : Schema} :
    d.Run visited s s' after ↔ s' = d.inlineFrom visited s ∧ after = visited := by
  constructor
  · exact Run.eq_inlineFrom
  · rintro ⟨rfl, rfl⟩
    exact run_inlineFrom d _ s

/-! ## §4. Nested calls. -/

/-- A call of inlining: the references in progress, and a schema. -/
structure Call where
  visited : List String
  schema : Schema

/-- A call makes another, which is nested in it.  The call on a member works with the references
    that the runs on the members before it have left. -/
inductive Calls (d : Document) : Call → Call → Prop
  | expand {visited : List String} {target : String} {b : SchemaBody Schema} :
      target ∉ visited → d.schemaAt? target = some b →
      Calls d ⟨visited, .ref target⟩ ⟨target :: visited, .inline b⟩
  | property {visited middle : List String} {b : SchemaBody Schema}
      {before before' after : Table String Schema} {key : String} {s : Schema} :
      b.properties = before ++ (key, s) :: after → d.RunTable visited before before' middle →
      Calls d ⟨visited, .inline b⟩ ⟨middle, s⟩
  | items {visited middle : List String} {b : SchemaBody Schema}
      {properties : Table String Schema} {s : Schema} :
      d.RunTable visited b.properties properties middle → b.items = some s →
      Calls d ⟨visited, .inline b⟩ ⟨middle, s⟩

/-- A call on a body makes one on each of its members, all with the same references in progress. -/
theorem calls_inline_iff {visited : List String} {b : SchemaBody Schema} {c : Call} :
    d.Calls ⟨visited, .inline b⟩ c ↔ c.visited = visited ∧ c.schema ∈ b.members := by
  have hrun : ∀ t : Table String Schema,
      d.RunTable visited t (Table.mapValues (d.inlineFrom visited) t) visited :=
    fun t => runTable_mapValues fun s _ => run_inlineFrom d visited s
  constructor
  · intro h
    cases h with
    | property hsplit hbefore =>
      obtain ⟨-, rfl⟩ := hbefore.eq_mapValues
      refine ⟨rfl, List.mem_append_left _ ?_⟩
      show _ ∈ b.properties.map (·.2)
      rw [hsplit]
      simp
    | items hproperties hitems =>
      obtain ⟨-, rfl⟩ := hproperties.eq_mapValues
      exact ⟨rfl, List.mem_append_right _ (Option.mem_toList.mpr hitems)⟩
  · obtain ⟨visited', s⟩ := c
    rintro ⟨rfl, hs⟩
    rcases List.mem_append.mp hs with hproperty | hitems
    · obtain ⟨⟨key, s⟩, he, rfl⟩ := List.mem_map.mp hproperty
      obtain ⟨before, after, hsplit⟩ := List.append_of_mem he
      exact .property hsplit (hrun before)
    · exact .items (hrun b.properties) (Option.mem_toList.mp hitems)

/-- **NO CALLS NEST ENDLESSLY.** -/
theorem wellFounded_calls (d : Document) : WellFounded fun c' c => d.Calls c c' := by
  constructor
  rintro ⟨visited, s⟩
  induction visited, s using inlineFrom_induct d with
  | seen visited target hv =>
    constructor
    intro c' hcall
    cases hcall with
    | expand hv' _ => exact absurd hv hv'
  | dangling visited target hv hnone =>
    constructor
    intro c' hcall
    cases hcall with
    | expand _ hb =>
      rw [hnone] at hb
      cases hb
  | expand visited target b hv hb ih =>
    constructor
    intro c' hcall
    cases hcall with
    | expand _ hb' =>
      rw [hb] at hb'
      cases hb'
      exact ih
  | inline visited b ih =>
    constructor
    rintro ⟨visited', s⟩ hcall
    obtain ⟨rfl, hs⟩ := calls_inline_iff.mp hcall
    exact ih s hs

/-! ## §5. Chains of nested calls. -/

/-- The reference that a call expands, if it does. -/
def expansion? (d : Document) (c : Call) : Option String :=
  c.schema.target?.filter fun target => target ∉ c.visited ∧ (d.schemaAt? target).isSome

/-- The references that the calls of a chain expand. -/
def expansions (d : Document) (chain : List Call) : List String := chain.filterMap d.expansion?

theorem expansion?_ref {visited : List String} {target : String} {b : SchemaBody Schema}
    (hv : target ∉ visited) (hb : d.schemaAt? target = some b) :
    d.expansion? ⟨visited, .ref target⟩ = some target := by
  simp [expansion?, Schema.target?, hv, hb]

/-- What a call expands is not in progress yet, and leads to a definition. -/
theorem of_expansion? {c : Call} {target : String} (h : d.expansion? c = some target) :
    target ∉ c.visited ∧ target ∈ d.schemaReferences := by
  obtain ⟨-, hp⟩ := Option.filter_eq_some_iff.mp h
  obtain ⟨hv, hb⟩ := of_decide_eq_true hp
  obtain ⟨b, hb⟩ := Option.isSome_iff_exists.mp hb
  exact ⟨hv, mem_schemaReferences hb⟩

/-- **Step**: a nested call has the same references in progress, and the one that is expanded. -/
theorem Calls.visited_eq {c c' : Call} (h : d.Calls c c') :
    c'.visited = (d.expansion? c).toList ++ c.visited := by
  obtain ⟨visited, s⟩ := c
  cases s with
  | ref target =>
    cases h with
    | expand hv hb =>
      rw [expansion?_ref hv hb]
      rfl
  | inline b =>
    -- nothing is expanded, and the call on a member takes over what is in progress
    exact (calls_inline_iff.mp h).1

theorem expansions_cons (c : Call) (chain : List Call) :
    d.expansions (c :: chain) = (d.expansion? c).toList ++ d.expansions chain := by
  unfold expansions
  cases hc : d.expansion? c with
  | none => rw [List.filterMap_cons_none hc]; rfl
  | some target => rw [List.filterMap_cons_some hc]; rfl

/-- **Run**: along a chain no reference is expanded twice, and none that was in progress when it
began. -/
theorem nodup_expansions {c : Call} {chain : List Call} (h : (c :: chain).IsChain d.Calls) :
    (d.expansions (c :: chain)).Nodup ∧
      ∀ target ∈ d.expansions (c :: chain), target ∉ c.visited := by
  induction chain generalizing c with
  | nil =>
    rw [expansions_cons]
    cases hc : d.expansion? c with
    | none => exact ⟨List.nodup_nil, nofun⟩
    | some target =>
      refine ⟨List.nodup_singleton target, ?_⟩
      intro t ht
      rw [List.mem_singleton.mp ht]
      exact (of_expansion? hc).1
  | cons c' rest ih =>
    obtain ⟨hcall, hrest⟩ := List.isChain_cons_cons.mp h
    obtain ⟨hnodup, hnew⟩ := ih hrest
    -- what is expanded further down is not in progress at `c'`, and so not expanded by `c` either
    rw [hcall.visited_eq] at hnew
    rw [expansions_cons]
    cases hc : d.expansion? c with
    | none =>
      rw [hc] at hnew
      exact ⟨hnodup, hnew⟩
    | some target =>
      rw [hc] at hnew
      constructor
      · apply List.nodup_cons.mpr
        refine ⟨fun hbelow => ?_, hnodup⟩
        exact hnew target hbelow List.mem_cons_self
      · intro t ht
        rcases List.mem_cons.mp ht with rfl | hbelow
        · exact (of_expansion? hc).1
        · exact fun hv => hnew t hbelow (List.mem_cons_of_mem _ hv)

/-- There are four references to every definition. -/
theorem length_schemaReferences (d : Document) :
    d.schemaReferences.length = 4 * d.schemas.length := by
  have hfour : ∀ name ∈ d.schemas.keys, (Reference.schemaSpellings name).length = 4 := by
    intro name _
    rfl
  unfold schemaReferences
  rw [List.length_flatMap, List.map_congr_left hfour, List.map_const', List.sum_replicate_nat]
  simp [Table.keys, Nat.mul_comm]

/-- References that lead to a definition, each counted once, are at most four for a definition. -/
theorem length_expansions_le {chain : List Call} (h : (d.expansions chain).Nodup) :
    (d.expansions chain).length ≤ 4 * d.schemas.length := by
  have hsub : d.expansions chain ⊆ d.schemaReferences := by
    intro target htarget
    obtain ⟨c, -, hc⟩ := List.mem_filterMap.mp htarget
    exact (of_expansion? hc).2
  rw [← length_schemaReferences]
  exact (h.subperm hsub).length_le

/-- **INLINING ENDS, AND LEAVES NO TRACE**.  Whatever the definitions are, and whatever references
are in progress: there is one run on a schema and no other, it gives the schema that is computed,
and the references in progress are the same afterwards.  No calls nest endlessly; and along a chain
of nested calls every reference is expanded at most once, and at most four for every definition. -/
theorem inlining_ends (d : Document) :
    (∀ visited s, ∃ s', Inlining.schema d s visited = (s', visited) ∧
      ∀ r after, d.Run visited s r after ↔ r = s' ∧ after = visited) ∧
    (WellFounded fun c' c => d.Calls c c') ∧
    ∀ chain : List Call, chain.IsChain d.Calls →
      (d.expansions chain).Nodup ∧ (d.expansions chain).length ≤ 4 * d.schemas.length := by
  refine ⟨?_, wellFounded_calls d, ?_⟩
  · intro visited s
    refine ⟨d.inlineFrom visited s, ?_, fun r after => run_iff⟩
    have hafter : (d.inlineWith visited s).2.val = visited := (d.inlineWith visited s).2.property
    exact Prod.ext rfl hafter
  · intro chain hchain
    have hnodup : (d.expansions chain).Nodup := by
      cases chain with
      | nil => exact List.nodup_nil
      | cons c rest => exact (nodup_expansions hchain).1
    exact ⟨hnodup, length_expansions_le hnodup⟩

/-- A node that refers to itself in all four spellings. -/
def nodeBody : SchemaBody Schema where
  properties := [
    ("left", .ref "#/components/schemas/Node"),
    ("right", .ref "#/schemas/Node"),
    ("above", .ref "#/components/definitions/Node"),
    ("below", .ref "#/definitions/Node")]

/-- The document of this node. -/
def nodeDocument : Document where
  swagger := some "2.0"
  definitions := [("Node", .inline nodeBody)]

/-- Calls that expand references to the node, one inside what the one before has expanded. -/
def nodeCalls (visited : List String) : List String → List Call
  | [] => []
  | target :: rest =>
    ⟨visited, .ref target⟩ :: ⟨target :: visited, .inline nodeBody⟩ ::
      nodeCalls (target :: visited) rest

/-- Along the longest way down the one definition is expanded four times, once for each spelling. -/
theorem inlining_nodeDocument_ends :
    ∃ chain : List Call, chain.IsChain nodeDocument.Calls ∧
      nodeDocument.expansions chain = ["#/definitions/Node", "#/schemas/Node",
        "#/components/schemas/Node", "#/components/definitions/Node"] ∧
      nodeDocument.schemas.length = 1 ∧
      (nodeDocument.expansions chain).Nodup ∧
      (nodeDocument.expansions chain).length ≤ 4 * nodeDocument.schemas.length := by
  have hchain : (nodeCalls [] ["#/definitions/Node", "#/schemas/Node", "#/components/schemas/Node",
      "#/components/definitions/Node"]).IsChain nodeDocument.Calls := by
    simp only [nodeCalls, List.isChain_cons_cons]
    refine ⟨.expand (by decide) rfl, calls_inline_iff.mpr ⟨rfl, ?_⟩,
      .expand (by decide) rfl, calls_inline_iff.mpr ⟨rfl, ?_⟩,
      .expand (by decide) rfl, calls_inline_iff.mpr ⟨rfl, ?_⟩,
      .expand (by decide) rfl, List.isChain_singleton _⟩
    all_goals simp [SchemaBody.members, Table.values, nodeBody]
  obtain ⟨hnodup, hlength⟩ := (inlining_ends nodeDocument).2.2 _ hchain
  exact ⟨_, hchain, by decide +kernel, rfl, hnodup, hlength⟩

end ApiMethods.Document
