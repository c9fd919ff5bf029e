/-
  ApiMethods.CommandLine.Command — what the command line can ask for.

  A command is named by the first argument; the others are options, in any order and each
  at most once.  An option takes its value from the next argument, behind an equals sign
  or, in its short form, directly behind the letter.
-/
import ApiMethods.Settings

namespace ApiMethods.CommandLine

open ApiMethods.Source (Format)

/-! ## §1. Commands -/

/-- The commands: print the methods of a document, check a document, list its methods in short,
    and write the settings that a project begins with. -/
inductive Command
  | compile (input : Option String) (format : Option Format)
  | validate (input : String)
  | inspect (input : String)
  | init (force : Bool)
deriving Repr, DecidableEq

/-! ## §2. Options -/

/-- An option that was given. -/
inductive Given
  | input (path : String)
  | format (format : Format)
  | force
deriving Repr, DecidableEq

namespace Given

/-- The input at a path, which has to be named. -/
def ofPath? (path : String) : Option Given := if path.isEmpty then none else some (.input path)

/-- What stands behind a beginning. -/
def behind? (start s : String) : Option String :=
  if start.toList.isPrefixOf s.toList then some (String.ofList (s.toList.drop start.length))
  else none

/-- The option that one argument gives. -/
def ofArgument? (a : String) : Option Given :=
  if a = "--force" then some .force
  else match behind? "--input=" a, behind? "--format=" a, behind? "-i=" a, behind? "-i" a with
    | some path, _, _, _ => ofPath? path
    | _, some name, _, _ => (formatOfText? name).map .format
    | _, _, some path, _ => ofPath? path
    | _, _, _, some path => ofPath? path
    | _, _, _, _ => none

/-- Whether an argument looks like an option itself. -/
def looksLikeOption (a : String) : Bool := a ≠ "-" && ['-'].isPrefixOf a.toList

/-- The option that an argument gives together with the next one. -/
def ofArguments? (a value : String) : Option Given :=
  if looksLikeOption value then none
  else if a = "-i" || a = "--input" then ofPath? value
  else if a = "--format" then (formatOfText? value).map .format
  else none

/-- The options that arguments give. -/
def all? : List String → Option (List Given)
  | [] => some []
  | a :: rest =>
    match ofArgument? a, rest with
    | some g, rest => (all? rest).map (g :: ·)
    | none, [] => none
    | none, value :: rest => do
      let g ← ofArguments? a value
      return g :: (← all? rest)

end Given

/-! ## §3. Reading the arguments -/

namespace Command

/-- The command with a name and options. -/
def ofGiven? : String → List Given → Option Command
  | "compile", [] => some (.compile none none)
  | "compile", [.input path] => some (.compile (some path) none)
  | "compile", [.format f] => some (.compile none (some f))
  | "compile", [.input path, .format f] => some (.compile (some path) (some f))
  | "compile", [.format f, .input path] => some (.compile (some path) (some f))
  | "validate", [.input path] => some (.validate path)
  | "inspect", [.input path] => some (.inspect path)
  | "init", [] => some (.init false)
  | "init", [.force] => some (.init true)
  | _, _ => none

/-- The command that arguments ask for. -/
def ofArguments? : List String → Option Command
  | [] => none
  | name :: rest => (Given.all? rest).bind (ofGiven? name)

/-- The path of the document that a command is about. -/
def input? (c : Command) (s : Settings) : Option String :=
  match c with
  | .compile path _ => some (path.getD s.input)
  | .validate path => some path
  | .inspect path => some path
  | .init _ => none

end Command

end ApiMethods.CommandLine
