/-
  ApiMethods.CommandLine.Report — what the commands answer.

  A command sees the settings of the folder and reads one file, the document that it is
  about.  What it answers is a report: the two outputs, the exit status, and the settings
  that it writes, if any.
-/
import ApiMethods.CommandLine.Command
import ApiMethods.CommandLine.Folder
import ApiMethods.Document.Load
import ApiMethods.Json.Text
import ApiMethods.Yaml.Writer

namespace ApiMethods.CommandLine

open ApiMethods.Source (Format)

/-! ## §1. Reports -/

/-- What is left of a run. -/
structure Report where
  status : Nat := 0
  stdout : String := ""
  stderr : String := ""
  written : Option String := none
deriving Repr, DecidableEq

/-- Why a command fails, and what caused it. -/
structure Failure where
  message : String
  cause : Option String := none
deriving Repr, DecidableEq

/-- The text of a failure. -/
def Failure.text (e : Failure) : String :=
  "Error: " ++ e.message ++ "\n" ++
    (match e.cause with
      | some cause => "\nCaused by:\n    " ++ cause ++ "\n"
      | none => "")

/-- The report of a failure, behind what was said before it. -/
def Failure.report (e : Failure) (said : String := "") : Report :=
  { status := 1, stderr := said ++ e.text }

/-- How the command line is used. -/
def usage : String :=
  "usage: compile [-i <path>] [--format json|yaml]\n" ++
  "       validate -i <path>\n" ++
  "       inspect -i <path>\n" ++
  "       init [--force]\n"

/-! ## §2. Documents and settings -/

/-- The settings of the folder; without a file, nothing is set. -/
def settingsOf : Option ByteArray → Except Failure Settings
  | none => .ok {}
  | some bytes => (Settings.load bytes).mapError fun e => ⟨e.message, none⟩

/-- The name of the file at the end of a path. -/
def fileNameOf (path : String) : List Char :=
  ((Text.splitOn '/' path.toList).getLast?).getD []

/-- The format of a file: JSON if its name has that extension. -/
def formatOfPath (path : String) : Format :=
  let name := fileNameOf path
  let extension := ".json".toList
  if name ≠ extension && extension.isSuffixOf name then .json else .yaml

/-- The document in a file. -/
def documentAt (path : String) (content : Except ReadError String) : Except Failure Document :=
  match content with
  | .error reason => .error ⟨"failed to read " ++ path, some reason.message⟩
  | .ok text => (Document.load (formatOfPath path) text).mapError fun e => ⟨e.message, none⟩

/-- The methods of a document under settings. -/
def methodsOf (s : Settings) (d : Document) : Except Failure Compilation :=
  (d.compile (s.modelsFor d) s.options).mapError fun e => ⟨e.message, none⟩

/-! ## §3. Compile and inspect -/

/-- The text of a compilation. -/
def printed (f : Format) (c : Compilation) : String :=
  match f with
  | .json => c.toJson.pretty ++ "\n"
  | .yaml => Yaml.Writer.write c.toJson

/-- A text filled up to a width. -/
def padded (width : Nat) (s : String) : String :=
  s ++ String.ofList (List.replicate (width - s.length) ' ')

/-- The name of a kind of reply in a summary. -/
def kindText : ReplyKind → String
  | .void => "Void"
  | .object => "Object"
  | .array => "Array"

/-- What is special about a method. -/
def flags (m : Method) : List String :=
  (if m.paginated then ["paginated"] else []) ++
  (if m.reply.hasHeaders then ["headers"] else []) ++
  (if m.body.isSome then ["body"] else []) ++
  (if m.deprecated then ["deprecated"] else [])

/-- The line of a method in a summary. -/
def summaryLine (m : Method) : String :=
  padded 7 m.verb.text ++ " " ++ padded 40 m.path.raw ++ " " ++ padded 28 m.name.camel ++ " " ++
    kindText m.reply.kind ++ " [" ++ ",".intercalate (flags m) ++ "]\n"

/-! ## §4. Validate -/

/-- What is said about a document before it is compiled. -/
def heading (d : Document) : String :=
  "Valid " ++ (if d.isVersion2 then "Swagger" else "OpenAPI") ++ " " ++ d.version ++ " spec: " ++
    d.info.title ++ "\n" ++
  "  Version: " ++ d.info.version ++ "\n" ++
  "  Paths: " ++ toString (d.paths.getD []).length ++ "\n"

/-- What is said about a compilation. -/
def counts (c : Compilation) : String :=
  "  Compiled operations: " ++ toString c.methods.length ++ "\n" ++
  "  Skipped operations: " ++ toString c.skipped.length ++ "\n" ++
  String.join (c.skipped.map fun s =>
    "    " ++ s.verb.text ++ " " ++ s.path ++ ": " ++ s.reason.message ++ "\n") ++
  "  Model imports: " ++ toString c.imports.length ++ "\n"

/-- Whether every operation was left out, though there are some. -/
def nothingCompiled (c : Compilation) : Bool := c.methods.isEmpty && !c.skipped.isEmpty

/-- Check a document. -/
def validation (s : Settings) (d : Document) : Report :=
  match methodsOf s d with
  | .error e => e.report (heading d)
  | .ok c =>
    let said := heading d ++ counts c
    if nothingCompiled c then Failure.report ⟨"every operation was skipped", none⟩ said
    else { stderr := said ++ "Validation successful.\n" }

/-! ## §5. All commands -/

/-- The report of a command that succeeds, or of its failure. -/
def settle : Except Failure Report → Report
  | .ok r => r
  | .error e => e.report

/-- Write the settings that a project begins with, but not over others unless forced. -/
def beginning (force : Bool) (settings : Option ByteArray) : Except Failure Report :=
  if settings.isSome && !force then
    .error ⟨Settings.fileName ++ " already exists. Use --force to overwrite.", none⟩
  else
    .ok { stderr := "Created " ++ Settings.fileName ++ "\n", written := some Settings.initialText }

/-- The settings, and the document at a path that they may choose. -/
def inputs (settings : Option ByteArray) (read : String → Except ReadError String)
    (path : Settings → String) : Except Failure (Settings × Document) := do
  let s ← settingsOf settings
  let d ← documentAt (path s) (read (path s))
  return (s, d)

/-- Carry out a command. -/
def Command.run (settings : Option ByteArray) (read : String → Except ReadError String) :
    Command → Except Failure Report
  | .compile path format => do
    let (s, d) ← inputs settings read fun s => path.getD s.input
    let c ← methodsOf s d
    return { stdout := printed (format.getD s.output.format) c }
  | .validate path => do
    let (s, d) ← inputs settings read fun _ => path
    return validation s d
  | .inspect path => do
    let (s, d) ← inputs settings read fun _ => path
    let c ← methodsOf s d
    return { stdout := String.join (c.methods.map summaryLine) }
  | .init force => beginning force settings

/-- The report for some arguments, in a folder with settings and further files. -/
def report (arguments : List String) (settings : Option ByteArray)
    (read : String → Except ReadError String) : Report :=
  match Command.ofArguments? arguments with
  | some c => settle (c.run settings read)
  | none => { status := 2, stderr := usage }

end ApiMethods.CommandLine
