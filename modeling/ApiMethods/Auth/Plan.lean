/-
  ApiMethods.Auth.Plan — how a method authenticates its requests.

  Of the alternatives that an operation requires the first is taken; each of its schemes
  that the catalog knows gives at most one instruction.  When none of them is known, and the
  operation leaves the matter to the document, generic credentials may be sent instead.
-/
import ApiMethods.Argument.Basic
import ApiMethods.Auth.Scheme

namespace ApiMethods.Auth

open Document (KeyLocation Requirement Requirements)

/-! ## §1. Instructions and plans -/

/-- One step of authenticating a request. -/
inductive Instruction
  | headerKey (scheme header : String)
  | queryKey (scheme parameter : String)
  | cookieKey (scheme cookie : String)
  | basic (scheme : String)
  | bearer (scheme start : String)
  | digest (scheme : String)
  | accessToken (scheme : String) (scopes : List String)
  | fallback (header : String)
deriving Repr, DecidableEq

namespace Instruction

/-- Whether the step is the generic one. -/
def isFallback : Instruction → Bool
  | fallback _ => true
  | _ => false

/-- The JSON object of a step. -/
def toJson : Instruction → Json
  | headerKey scheme header =>
    .object [("kind", .text "header_api_key"), ("scheme", .text scheme),
      ("header_name", .text header)]
  | queryKey scheme parameter =>
    .object [("kind", .text "query_api_key"), ("scheme", .text scheme),
      ("param_name", .text parameter)]
  | cookieKey scheme cookie =>
    .object [("kind", .text "cookie_api_key"), ("scheme", .text scheme),
      ("cookie_name", .text cookie)]
  | basic scheme => .object [("kind", .text "basic"), ("scheme", .text scheme)]
  | bearer scheme start =>
    .object [("kind", .text "bearer"), ("scheme", .text scheme), ("prefix", .text start)]
  | digest scheme => .object [("kind", .text "digest"), ("scheme", .text scheme)]
  | accessToken scheme scopes =>
    .object [("kind", .text "access_token"), ("scheme", .text scheme),
      ("scopes", Json.texts scopes)]
  | fallback header =>
    .object [("kind", .text "legacy_fallback"), ("bearer", .bool true),
      ("api_key_header", .text header)]

end Instruction

/-- The plan of a method: its steps, the schemes of the chosen alternative that nobody declared, and
    how many alternatives were not looked at. -/
structure Plan where
  instructions : List Instruction
  unknownSchemes : List String
  ignoredAlternatives : Nat
deriving Repr, DecidableEq

namespace Plan

/-- Whether there is nothing to do. -/
def isEmpty (p : Plan) : Bool := p.instructions.isEmpty

/-- Whether generic credentials are sent. -/
def usesFallback (p : Plan) : Bool := p.instructions.any Instruction.isFallback

/-- The JSON object of a plan. -/
def toJson (p : Plan) : Json :=
  .object <|
    Json.field "instructions" (.list (p.instructions.map Instruction.toJson)) ++
    Json.unlessEmpty "unknown_schemes" Json.texts p.unknownSchemes ++
    Json.field "ignored_alternatives" (Json.whole p.ignoredAlternatives)

end Plan

/-! ## §2. Planning -/

/-- The alternatives that hold for an operation: its own, even when there are none, else those of
    the document. -/
def effective (document operation : Option Requirements) : Requirements :=
  (operation.or document).getD []

/-- The step that a scheme asks for.  A query key that is an argument already needs none. -/
def instruction? (args : Arguments) (s : Scheme) (scopes : List String) : Option Instruction :=
  match s.kind with
  | .apiKey .header parameter => some (.headerKey s.name parameter)
  | .apiKey .query parameter =>
    if (args.find? parameter .query).isSome then none else some (.queryKey s.name parameter)
  | .apiKey .cookie parameter => some (.cookieKey s.name parameter)
  | .http .basic _ => some (.basic s.name)
  | .http .bearer format => some (.bearer s.name (format.getD "Bearer"))
  | .http .digest _ => some (.digest s.name)
  | .http (.other _) _ => none
  | .oauth2 _ => some (.accessToken s.name scopes)
  | .openIdConnect _ => some (.accessToken s.name scopes)

/-- What has been gathered on the way through an alternative: whether the catalog knew one of its
    schemes, even one that asks for nothing, the steps, and the schemes that nobody declared. -/
structure Gathered where
  applied : Bool := false
  instructions : List Instruction := []
  unknown : List String := []
deriving Repr, DecidableEq

/-- Take up one more scheme of the alternative. -/
def Gathered.add (c : Catalog) (args : Arguments) (g : Gathered) (e : String × List String) :
    Gathered :=
  match c.get? e.1 with
  | none => { g with unknown := g.unknown ++ [e.1] }
  | some s =>
    { g with applied := true, instructions := g.instructions ++ (instruction? args s e.2).toList }

/-- What an alternative comes to, scheme after scheme. -/
def gather (c : Catalog) (args : Arguments) (r : Requirement) : Gathered :=
  r.foldl (Gathered.add c args) {}

/-- The plan for some alternatives, given the header for generic credentials if they may be sent. -/
def plan (rs : Requirements) (c : Catalog) (args : Arguments) (header : Option String) : Plan :=
  let found := gather c args (rs.headD [])
  let generic := if found.applied then [] else (header.map Instruction.fallback).toList
  ⟨found.instructions ++ generic, found.unknown, rs.length - 1⟩

/-! ## §3. What an alternative comes to -/

/-- The steps that an alternative asks for. -/
def instructions (c : Catalog) (args : Arguments) (r : Requirement) : List Instruction :=
  r.filterMap fun (name, scopes) => (c.get? name).bind fun s => instruction? args s scopes

/-- The schemes of an alternative that the catalog does not know. -/
def unknown (c : Catalog) (r : Requirement) : List String :=
  r.keys.filter fun name => (c.get? name).isNone

/-- Whether the catalog knows a scheme of an alternative. -/
def applies (c : Catalog) (r : Requirement) : Bool := r.keys.any fun name => (c.get? name).isSome

/-- What is gathered from the rest of an alternative joins what has been gathered before. -/
theorem foldl_add (c : Catalog) (args : Arguments) (r : Requirement) (g : Gathered) :
    r.foldl (Gathered.add c args) g =
      ⟨g.applied || applies c r, g.instructions ++ instructions c args r,
        g.unknown ++ unknown c r⟩ := by
  induction r generalizing g with
  | nil => simp [applies, instructions, unknown, Table.keys]
  | cons e rest ih =>
    rw [List.foldl_cons, ih]
    cases hget : c.get? e.1 with
    | none => simp [Gathered.add, hget, applies, instructions, unknown, Table.keys]
    | some s =>
      cases hstep : instruction? args s e.2 <;>
        simp [Gathered.add, hget, hstep, applies, instructions, unknown, Table.keys]

/-- **A plan in one piece**: no scheme has to wait for another. -/
theorem plan_eq (rs : Requirements) (c : Catalog) (args : Arguments) (header : Option String) :
    plan rs c args header =
      ⟨instructions c args (rs.headD []) ++
          (if applies c (rs.headD []) then [] else (header.map Instruction.fallback).toList),
        unknown c (rs.headD []), rs.length - 1⟩ := by
  unfold plan gather
  rw [foldl_add]
  rfl

end ApiMethods.Auth
