/-
  ApiMethods.Proofs.AuthPlans
  ───────────────────────────
  **A PLAN IS THE FIRST ALTERNATIVE, SCHEME BY SCHEME.**

  Two translations stand between a declared scheme and a step of authentication: the catalog
  keeps what the declaration asks for, and the plan makes a step of it.  `Prescribed` is what
  they come to together:

      declared as                          prescribes
      apiKey in a header, query, cookie    the key there, under its declared name
      http basic, or basic                 user name and password
      http bearer                          a token after the declared format, or after `Bearer`
      http digest                          a digest
      oauth2, openIdConnect                an access token with the scopes that are required

  and `Silent` are the two cases in which a scheme that can be used asks for nothing: its query
  key is a declared argument already, or its HTTP scheme is none of the three above.

  `Steps` goes through an alternative with these two relations, and `Plan.Follows` says of a plan
  that its steps are those of the first alternative, or else the generic ones, and that no other
  alternative leaves a trace but in their number.
-/
import ApiMethods.Proofs.Accounts

namespace ApiMethods

open Document (KeyLocation Requirement Requirements SecurityScheme)

namespace Auth

/-! ## §1. What a declared scheme comes to. -/

/-- The step that a declared scheme prescribes to those who have to meet it with some scopes. -/
inductive Prescribed (name : String) (scopes : List String) (s : SecurityScheme) :
    Instruction → Prop
  | headerKey {key : String} : s.type = .apiKey → s.location = some .header → s.name = some key →
      Prescribed name scopes s (.headerKey name key)
  | queryKey {key : String} : s.type = .apiKey → s.location = some .query → s.name = some key →
      Prescribed name scopes s (.queryKey name key)
  | cookieKey {key : String} : s.type = .apiKey → s.location = some .cookie → s.name = some key →
      Prescribed name scopes s (.cookieKey name key)
  | basic : s.type = .basic → Prescribed name scopes s (.basic name)
  | httpBasic {scheme : String} : s.type = .http → s.scheme = some scheme →
      Text.asciiLower scheme = "basic" → Prescribed name scopes s (.basic name)
  | httpBearer {scheme : String} : s.type = .http → s.scheme = some scheme →
      Text.asciiLower scheme = "bearer" →
      Prescribed name scopes s (.bearer name (s.bearerFormat.getD "Bearer"))
  | httpDigest {scheme : String} : s.type = .http → s.scheme = some scheme →
      Text.asciiLower scheme = "digest" → Prescribed name scopes s (.digest name)
  | oauth2 : s.type = .oauth2 → Prescribed name scopes s (.accessToken name scopes)
  | openIdConnect : s.type = .openIdConnect → Prescribed name scopes s (.accessToken name scopes)

/-- A declared scheme asks for no step, although it can be used. -/
inductive Silent (args : Arguments) (s : SecurityScheme) : Prop
  /-- Its key is sent as an argument already. -/
  | declaredKey {a : Argument} : s.type = .apiKey → s.location = some .query →
      a ∈ args.query → s.name = some a.name → Silent args s
  /-- Its HTTP scheme has no step. -/
  | otherHttp {scheme : String} : s.type = .http → s.scheme = some scheme →
      Text.asciiLower scheme ∉ ["basic", "bearer", "digest"] → Silent args s

theorem isSome_find?_query {args : Arguments} {key : String} :
    (args.find? key .query).isSome = true ↔ ∃ a ∈ args.query, a.name = key := by
  show (args.query.find? fun a => a.name = key).isSome = true ↔ _
  simp [List.find?_isSome]

/-- Keys in a query are the only ones that may be declared twice. -/
theorem silent_apiKey_iff {args : Arguments} {s : SecurityScheme} {location : KeyLocation}
    {key : String} (htype : s.type = .apiKey) (hlocation : s.location = some location)
    (hname : s.name = some key) :
    Silent args s ↔ location = .query ∧ (args.find? key .query).isSome = true := by
  rw [isSome_find?_query]
  constructor
  · rintro (⟨-, hquery, ha, hkey⟩ | ⟨hhttp, -, -⟩)
    · rw [hlocation] at hquery
      rw [hname] at hkey
      exact ⟨Option.some.inj hquery, _, ha, (Option.some.inj hkey).symm⟩
    · rw [htype] at hhttp
      cases hhttp
  · rintro ⟨rfl, a, ha, rfl⟩
    exact .declaredKey htype hlocation ha hname

/-- Of the HTTP schemes three have a step. -/
theorem silent_http_iff {args : Arguments} {s : SecurityScheme} {scheme : String}
    (htype : s.type = .http) (hscheme : s.scheme = some scheme) :
    Silent args s ↔ Text.asciiLower scheme ∉ ["basic", "bearer", "digest"] := by
  constructor
  · rintro (⟨hkey, -, -, -⟩ | ⟨-, hother, hnot⟩)
    · rw [htype] at hkey
      cases hkey
    · rw [hscheme] at hother
      cases hother
      exact hnot
  · exact fun hnot => .otherHttp htype hscheme hnot

/-- Only keys and HTTP schemes may ask for nothing. -/
theorem not_silent {args : Arguments} {s : SecurityScheme} (hkey : s.type ≠ .apiKey)
    (hhttp : s.type ≠ .http) : ¬ Silent args s := by
  rintro (⟨h, -, -, -⟩ | ⟨h, -, -⟩)
  · exact hkey h
  · exact hhttp h

/-- A scheme of the catalog asks for what its declaration prescribes, or the declaration is silent
    and the scheme asks for nothing. -/
def Conforms (args : Arguments) (scopes : List String) (s : SecurityScheme) (found : Scheme) : Prop :=
  (Silent args s ∧ instruction? args found scopes = none) ∨
  (¬ Silent args s ∧
    ∃ i, instruction? args found scopes = some i ∧ Prescribed found.name scopes s i)

section Step

variable (args : Arguments) (scopes : List String) {s : SecurityScheme} (name : String)

theorem conforms_apiKey {location : KeyLocation} {key : String} (htype : s.type = .apiKey)
    (hlocation : s.location = some location) (hname : s.name = some key) :
    Conforms args scopes s ⟨name, .apiKey location key⟩ := by
  have hsilent : Silent args s ↔ location = .query ∧ (args.find? key .query).isSome = true :=
    silent_apiKey_iff htype hlocation hname
  cases location with
  | header =>
    have hnot : ¬ Silent args s := fun hs => nomatch (hsilent.mp hs).1
    exact .inr ⟨hnot, _, rfl, .headerKey htype hlocation hname⟩
  | cookie =>
    have hnot : ¬ Silent args s := fun hs => nomatch (hsilent.mp hs).1
    exact .inr ⟨hnot, _, rfl, .cookieKey htype hlocation hname⟩
  | query =>
    -- the key of a query gives way to an argument of the same name
    by_cases hfind : (args.find? key .query).isSome = true
    · refine .inl ⟨hsilent.mpr ⟨rfl, hfind⟩, ?_⟩
      simp [instruction?, hfind]
    · have hnot : ¬ Silent args s := fun hs => hfind (hsilent.mp hs).2
      refine .inr ⟨hnot, .queryKey name key, ?_, .queryKey htype hlocation hname⟩
      simp [instruction?, hfind]

theorem conforms_http {scheme : String} (htype : s.type = .http)
    (hscheme : s.scheme = some scheme) :
    Conforms args scopes s ⟨name, .http (.ofText scheme) s.bearerFormat⟩ := by
  have hsilent : Silent args s ↔ Text.asciiLower scheme ∉ ["basic", "bearer", "digest"] :=
    silent_http_iff htype hscheme
  unfold HttpScheme.ofText
  split
  · rename_i hlower
    have hnot : ¬ Silent args s := fun hs => hsilent.mp hs (by simp [hlower])
    exact .inr ⟨hnot, _, rfl, .httpBasic htype hscheme hlower⟩
  · rename_i hlower
    have hnot : ¬ Silent args s := fun hs => hsilent.mp hs (by simp [hlower])
    exact .inr ⟨hnot, _, rfl, .httpBearer htype hscheme hlower⟩
  · rename_i hlower
    have hnot : ¬ Silent args s := fun hs => hsilent.mp hs (by simp [hlower])
    exact .inr ⟨hnot, _, rfl, .httpDigest htype hscheme hlower⟩
  · rename_i hbasic hbearer hdigest
    have hnone : Text.asciiLower scheme ∉ ["basic", "bearer", "digest"] := by
      simp only [List.mem_cons, List.not_mem_nil, or_false, not_or]
      exact ⟨hbasic, hbearer, hdigest⟩
    exact .inl ⟨hsilent.mpr hnone, rfl⟩

/-- **Step**: what is made of a declaration asks for what the declaration prescribes. -/
theorem conforms_of_normalize {found : Scheme} (h : normalize name s = .ok found) :
    Conforms args scopes s found ∧ found.name = name := by
  obtain ⟨kind, hkind, rfl⟩ := map_eq_ok h
  refine ⟨?_, rfl⟩
  -- a declaration of any other type has its step, and is never silent
  have hsure : ∀ i : Instruction, s.type ≠ .apiKey → s.type ≠ .http →
      instruction? args ⟨name, kind⟩ scopes = some i → Prescribed name scopes s i →
      Conforms args scopes s ⟨name, kind⟩ :=
    fun i hkey hhttp hstep hprescribed =>
      .inr ⟨not_silent hkey hhttp, i, hstep, hprescribed⟩
  unfold kindOf at hkind
  cases htype : s.type with
  | apiKey =>
    rw [htype] at hkind
    cases hlocation : s.location with
    | none => simp [hlocation] at hkind
    | some location =>
      cases hname : s.name with
      | none => simp [hlocation, hname] at hkind
      | some key =>
        simp only [hlocation, hname, Except.ok.injEq] at hkind
        subst hkind
        exact conforms_apiKey args scopes name htype hlocation hname
  | http =>
    rw [htype] at hkind
    cases hscheme : s.scheme with
    | none => simp [hscheme] at hkind
    | some scheme =>
      simp only [hscheme, Except.ok.injEq] at hkind
      subst hkind
      exact conforms_http args scopes name htype hscheme
  | basic =>
    rw [htype] at hkind
    cases hkind
    exact hsure _ (by simp [htype]) (by simp [htype]) rfl (.basic htype)
  | oauth2 =>
    rw [htype] at hkind
    cases hkind
    exact hsure _ (by simp [htype]) (by simp [htype]) rfl (.oauth2 htype)
  | openIdConnect =>
    rw [htype] at hkind
    cases hurl : s.openIdConnectUrl with
    | none => simp [hurl] at hkind
    | some url =>
      simp only [hurl, Except.ok.injEq] at hkind
      subst hkind
      exact hsure _ (by simp [htype]) (by simp [htype]) rfl (.openIdConnect htype)
  | mutualTls =>
    rw [htype] at hkind
    cases hkind
  | other type =>
    rw [htype] at hkind
    cases hkind

end Step

end Auth

/-! ## §2. What the catalog knows. -/

namespace Document

/-- A name is that of a declared scheme that can be used. -/
def Provides (d : Document) (name : String) (s : SecurityScheme) : Prop :=
  Table.get? d.declaredSchemes name = some s ∧
  ∃ kind, (Auth.Catalog.ofDocument d).get? name = some ⟨name, kind⟩

/-- Behind everything in the catalog stands a declaration. -/
theorem exists_normalize_of_get?_catalog {d : Document} (h : d.declaredSchemes.Distinct)
    {name : String} {found : Auth.Scheme} (hget : (Auth.Catalog.ofDocument d).get? name = some found) :
    ∃ s, Table.get? d.declaredSchemes name = some s ∧ Auth.normalize name s = .ok found := by
  have hkey : name ∈ Table.keys (Auth.Catalog.ofDocument d).schemes := Table.mem_keys_of_get? hget
  rw [catalog_eq] at hkey
  obtain ⟨⟨name', found'⟩, hmem, rfl⟩ := List.mem_map.mp hkey
  obtain ⟨e, he, hname⟩ := List.mem_filterMap.mp hmem
  obtain ⟨scheme, -, heq⟩ := Option.map_eq_some_iff.mp hname
  cases heq
  refine ⟨e.2, Table.get?_of_mem h he, ?_⟩
  rw [get?_catalog h he] at hget
  exact toOption_eq_some.mp hget

end Document

/-! ## §3. Going through an alternative. -/

namespace Auth

/-- The steps of an alternative, scheme by scheme: none for a scheme that the catalog does not know
    or that is silent, and for any other the one that is prescribed. -/
inductive Steps (d : Document) (args : Arguments) : Requirement → List Instruction → Prop
  | nil : Steps d args [] []
  | unknown {name : String} {scopes : List String} {rest : Requirement} {is : List Instruction} :
      (Catalog.ofDocument d).get? name = none → Steps d args rest is →
      Steps d args ((name, scopes) :: rest) is
  | silent {name : String} {scopes : List String} {s : SecurityScheme} {rest : Requirement}
      {is : List Instruction} : d.Provides name s → Silent args s → Steps d args rest is →
      Steps d args ((name, scopes) :: rest) is
  | step {name : String} {scopes : List String} {s : SecurityScheme} {i : Instruction}
      {rest : Requirement} {is : List Instruction} : d.Provides name s → ¬ Silent args s →
      Prescribed name scopes s i → Steps d args rest is →
      Steps d args ((name, scopes) :: rest) (i :: is)

theorem instructions_cons (c : Catalog) (args : Arguments) (e : String × List String)
    (rest : Requirement) :
    instructions c args (e :: rest) =
      ((c.get? e.1).bind fun s => instruction? args s e.2).toList ++ instructions c args rest := by
  simp only [instructions, List.filterMap_cons]
  cases (c.get? e.1).bind fun s => instruction? args s e.2 <;> rfl

/-- **Run**: the steps that are gathered are those of the alternative. -/
theorem steps_instructions {d : Document} (h : d.declaredSchemes.Distinct) (args : Arguments)
    (r : Requirement) : Steps d args r (instructions (.ofDocument d) args r) := by
  induction r with
  | nil => exact .nil
  | cons e rest ih =>
    obtain ⟨name, scopes⟩ := e
    rw [instructions_cons]
    dsimp only
    cases hget : (Catalog.ofDocument d).get? name with
    | none => exact .unknown hget ih
    | some found =>
      obtain ⟨s, hs, hnormalize⟩ := Document.exists_normalize_of_get?_catalog h hget
      obtain ⟨hconforms, rfl⟩ := conforms_of_normalize args scopes name hnormalize
      have hprovides : d.Provides found.name s := ⟨hs, found.kind, hget⟩
      rcases hconforms with ⟨hsilent, hnone⟩ | ⟨hnot, i, hstep, hprescribed⟩
      · rw [Option.bind_some, hnone]
        exact .silent hprovides hsilent ih
      · rw [Option.bind_some, hstep]
        exact .step hprovides hnot hprescribed ih

/-- The scheme that a step is for. -/
def Instruction.scheme? : Instruction → Option String
  | .headerKey scheme _ => some scheme
  | .queryKey scheme _ => some scheme
  | .cookieKey scheme _ => some scheme
  | .basic scheme => some scheme
  | .bearer scheme _ => some scheme
  | .digest scheme => some scheme
  | .accessToken scheme _ => some scheme
  | .fallback _ => none

theorem Prescribed.scheme?_eq {name : String} {scopes : List String} {s : SecurityScheme}
    {i : Instruction} (h : Prescribed name scopes s i) : i.scheme? = some name := by
  cases h <;> rfl

section Steps

variable {d : Document} {args : Arguments} {r : Requirement} {is : List Instruction}

/-- Every step is prescribed by a scheme of the alternative. -/
theorem Steps.exists_prescribed (h : Steps d args r is) {i : Instruction} (hi : i ∈ is) :
    ∃ name scopes s, (name, scopes) ∈ r ∧ d.Provides name s ∧ ¬ Silent args s ∧
      Prescribed name scopes s i := by
  induction h with
  | nil => cases hi
  | unknown _ _ ih | silent _ _ _ ih =>
    obtain ⟨name, scopes, s, hmem, hrest⟩ := ih hi
    exact ⟨name, scopes, s, List.mem_cons_of_mem _ hmem, hrest⟩
  | step hprovides hnot hprescribed _ ih =>
    rcases List.mem_cons.mp hi with rfl | hi
    · exact ⟨_, _, _, List.mem_cons_self, hprovides, hnot, hprescribed⟩
    · obtain ⟨name, scopes, s, hmem, hrest⟩ := ih hi
      exact ⟨name, scopes, s, List.mem_cons_of_mem _ hmem, hrest⟩

/-- The schemes of the steps come in the order of the alternative, none more often than there. -/
theorem Steps.schemes_sublist (h : Steps d args r is) :
    (is.filterMap Instruction.scheme?).Sublist
      (r.keys.filter fun name => ((Catalog.ofDocument d).get? name).isSome) := by
  induction h with
  | nil => exact .slnil
  | unknown hnone _ ih =>
    refine ih.trans (List.Sublist.filter _ ?_)
    exact List.sublist_cons_self _ _
  | silent _ _ _ ih =>
    refine ih.trans (List.Sublist.filter _ ?_)
    exact List.sublist_cons_self _ _
  | step hprovides _ hprescribed _ ih =>
    obtain ⟨-, kind, hget⟩ := hprovides
    rw [List.filterMap_cons_some hprescribed.scheme?_eq]
    show List.Sublist _ (List.filter _ (_ :: _))
    rw [List.filter_cons_of_pos (by rw [hget]; rfl)]
    exact ih.cons_cons _

/-- An alternative of unknown schemes has no steps. -/
theorem Steps.eq_nil (h : Steps d args r is)
    (hnone : ∀ name ∈ r.keys, (Catalog.ofDocument d).get? name = none) : is = [] := by
  refine List.eq_nil_iff_forall_not_mem.mpr fun i hi => ?_
  obtain ⟨name, scopes, s, hmem, ⟨-, kind, hget⟩, -⟩ := h.exists_prescribed hi
  rw [hnone name (List.mem_map_of_mem (f := Prod.fst) hmem)] at hget
  cases hget

/-- No step is the generic one. -/
theorem Steps.fallback_not_mem (h : Steps d args r is) (header : String) :
    Instruction.fallback header ∉ is := by
  intro hi
  obtain ⟨_, _, _, _, _, _, hprescribed⟩ := h.exists_prescribed hi
  cases hprescribed

/-- No step sends a key that is an argument already. -/
theorem Steps.queryKey_fresh (h : Steps d args r is) {scheme key : String}
    (hi : Instruction.queryKey scheme key ∈ is) : ∀ a ∈ args.query, a.name ≠ key := by
  obtain ⟨_, _, s, _, _, hnot, hprescribed⟩ := h.exists_prescribed hi
  cases hprescribed with
  | queryKey htype hlocation hname =>
    rintro a ha rfl
    exact hnot (.declaredKey htype hlocation ha hname)

end Steps

theorem applies_eq_false_iff {c : Catalog} {r : Requirement} :
    applies c r = false ↔ ∀ name ∈ r.keys, c.get? name = none := by
  unfold applies
  simp [List.any_eq_false]

/-! ## §4. Plans. -/

/-- A plan follows the first of some alternatives. -/
structure Plan.Follows (d : Document) (args : Arguments) (header : Option String)
    (rs : Requirements) (p : Plan) : Prop where
  /-- The other alternatives are counted. -/
  ignored : p.ignoredAlternatives = rs.length - 1
  /-- The schemes that are not in the catalog are named in their order. -/
  unknown : p.unknownSchemes =
    (rs.headD []).keys.filter fun name => ((Catalog.ofDocument d).get? name).isNone
  /-- The steps are those of the alternative, but for a generic one. -/
  steps : Steps d args (rs.headD []) (p.instructions.filter fun i => !i.isFallback)
  /-- They come in its order, and none is for a scheme outside the catalog. -/
  order : (p.instructions.filterMap Instruction.scheme?).Sublist
    ((rs.headD []).keys.filter fun name => ((Catalog.ofDocument d).get? name).isSome)
  /-- No scheme has two steps. -/
  once : (p.instructions.filterMap Instruction.scheme?).Nodup
  /-- A key in the query is not an argument of the query as well. -/
  fresh : ∀ scheme key, Instruction.queryKey scheme key ∈ p.instructions →
    ∀ a ∈ args.query, a.name ≠ key
  /-- The generic step stands for an alternative of which nothing is in the catalog, if it may. -/
  fallback : ∀ h, Instruction.fallback h ∈ p.instructions ↔
    header = some h ∧ ∀ name ∈ (rs.headD []).keys, (Catalog.ofDocument d).get? name = none
  /-- It stands alone. -/
  alone : ∀ h, Instruction.fallback h ∈ p.instructions → p.instructions = [.fallback h]

section Plans

variable {d : Document} {rs : Requirements} {args : Arguments} {header : Option String}
variable (hschemes : d.declaredSchemes.Distinct)
include hschemes

/-- When a scheme of the first alternative is known, the plan is made of the steps alone. -/
theorem follows_of_applies (hfirst : Table.Distinct (rs.headD []))
    (happlies : applies (.ofDocument d) (rs.headD []) = true) :
    (plan rs (.ofDocument d) args header).Follows d args header rs := by
  have hsteps := steps_instructions hschemes args (rs.headD [])
  have hplain : (instructions (.ofDocument d) args (rs.headD [])).filter (fun i => !i.isFallback)
      = instructions (.ofDocument d) args (rs.headD []) := by
    refine List.filter_eq_self.mpr fun i hi => ?_
    cases i with
    | fallback h => exact absurd hi (hsteps.fallback_not_mem h)
    | _ => rfl
  rw [plan_eq, happlies]
  simp only [if_true, List.append_nil]
  refine ⟨rfl, rfl, ?_, hsteps.schemes_sublist, ?_, fun _ _ => hsteps.queryKey_fresh, ?_, ?_⟩
  · rw [hplain]
    exact hsteps
  · exact hsteps.schemes_sublist.nodup (hfirst.filter _)
  · intro h
    refine iff_of_false (hsteps.fallback_not_mem h) fun hall => ?_
    rw [applies_eq_false_iff.mpr hall.2] at happlies
    cases happlies
  · intro h hi
    exact absurd hi (hsteps.fallback_not_mem h)

/-- When none is known, the plan is the generic step or nothing. -/
theorem follows_of_not_applies (happlies : applies (.ofDocument d) (rs.headD []) = false) :
    (plan rs (.ofDocument d) args header).Follows d args header rs := by
  have hunknown := applies_eq_false_iff.mp happlies
  have hsteps := steps_instructions hschemes args (rs.headD [])
  have hnil := hsteps.eq_nil hunknown
  rw [hnil] at hsteps
  rw [plan_eq, happlies, hnil]
  simp only [Bool.false_eq_true, if_false, List.nil_append]
  cases header with
  | none =>
    exact ⟨rfl, rfl, hsteps, List.nil_sublist _, List.nodup_nil, nofun, fun h => by simp, nofun⟩
  | some h =>
    refine ⟨rfl, rfl, hsteps, List.nil_sublist _, List.nodup_nil, ?_, ?_, ?_⟩
    · intro scheme key hi
      cases List.mem_singleton.mp hi
    · intro h'
      constructor
      · intro hi
        cases List.mem_singleton.mp hi
        exact ⟨rfl, hunknown⟩
      · rintro ⟨heq, -⟩
        cases heq
        exact List.mem_singleton.mpr rfl
    · intro h' hi
      cases List.mem_singleton.mp hi
      rfl

end Plans

/-- **A PLAN IS THE FIRST ALTERNATIVE**, scheme by scheme, or the generic credentials in its place; and
alternatives that share the first have the same plan, but for their number. -/
theorem plan_follows (d : Document) (rs : Requirements) (args : Arguments) (header : Option String)
    (hschemes : d.declaredSchemes.Distinct) (hfirst : Table.Distinct (rs.headD [])) :
    (plan rs (.ofDocument d) args header).Follows d args header rs ∧
    ∀ rs' : Requirements, rs'.head? = rs.head? →
      (plan rs' (.ofDocument d) args header).instructions =
        (plan rs (.ofDocument d) args header).instructions ∧
      (plan rs' (.ofDocument d) args header).unknownSchemes =
        (plan rs (.ofDocument d) args header).unknownSchemes := by
  constructor
  · cases happlies : applies (.ofDocument d) (rs.headD []) with
    | true => exact follows_of_applies hschemes hfirst happlies
    | false => exact follows_of_not_applies hschemes happlies
  · intro rs' hhead
    have hsame : rs'.headD [] = rs.headD [] := by
      rw [List.headD_eq_head?_getD, List.headD_eq_head?_getD, hhead]
    rw [plan_eq, plan_eq, hsame]
    exact ⟨rfl, rfl⟩

/-- A document with a key in the query, an access token, an HTTP scheme without a step, and a scheme
    that cannot be used. -/
def gateDocument : Document where
  openapi := some "3.0.3"
  components := some { securitySchemes := [
    ("token", { type := .apiKey, name := some "token", location := some .query }),
    ("login", { type := .oauth2 }),
    ("hoba", { type := .http, scheme := some "HOBA" }),
    ("tls", { type := .mutualTls })] }

/-- Arguments that take the token of the query already. -/
def gateArguments : Arguments :=
  .ofList [.ofTyped { name := "token", location := .known .query } .query .string]

/-- All of these schemes and one that nobody declared, or the login alone. -/
def gateRequirements : Requirements :=
  [[("tls", []), ("token", []), ("login", ["read"]), ("ghost", []), ("hoba", [])],
    [("login", ["write"])]]

/-- One step is left of the five schemes, and none of the scheme that nobody declared. -/
theorem plan_follows_gateDocument :
    gateDocument.declaredSchemes.Distinct ∧ Table.Distinct (gateRequirements.headD []) ∧
    ∃ p q, plan gateRequirements (.ofDocument gateDocument) gateArguments (some "X-Key") = p ∧
      plan [[("ghost", [])]] (.ofDocument gateDocument) gateArguments (some "X-Key") = q ∧
      p.Follows gateDocument gateArguments (some "X-Key") gateRequirements ∧
      p = ⟨[.accessToken "login" ["read"]], ["tls", "ghost"], 1⟩ ∧
      q.Follows gateDocument gateArguments (some "X-Key") [[("ghost", [])]] ∧
      q = ⟨[.fallback "X-Key"], ["ghost"], 0⟩ := by
  have hschemes : gateDocument.declaredSchemes.Distinct := by
    unfold Table.Distinct
    decide
  have hfirst : Table.Distinct (gateRequirements.headD []) := by
    unfold Table.Distinct
    decide
  have hghost : Table.Distinct (List.headD [[("ghost", ([] : List String))]] []) := by
    unfold Table.Distinct
    decide
  have hplan := plan_follows gateDocument gateRequirements gateArguments (some "X-Key")
    hschemes hfirst
  have hgeneric := plan_follows gateDocument [[("ghost", [])]] gateArguments (some "X-Key")
    hschemes hghost
  exact ⟨hschemes, hfirst, _, _, rfl, rfl, hplan.1, by decide +kernel, hgeneric.1,
    by decide +kernel⟩

end Auth

end ApiMethods
