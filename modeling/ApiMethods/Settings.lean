/-
  ApiMethods.Settings — the settings of a project.

  Settings are a YAML file in the directory of the project; everything in it may be left
  out.
-/
import ApiMethods.Method.Compile
import ApiMethods.Source.Text

namespace ApiMethods

open ApiMethods.Source (Reader Fields Fault Format)

/-! ## §1. Settings -/

/-- Which source of models is used. -/
inductive ModelSource
  | none
  | components
deriving Repr, DecidableEq

/-- The names of the sources of models. -/
def ModelSource.ofText? : String → Option ModelSource
  | "none" => some .none
  | "components" => some .components
  | _ => Option.none

/-- The name of a source of models. -/
def ModelSource.text : ModelSource → String
  | .none => "none"
  | .components => "components"

/-- The formats of output. -/
def formatOfText? : String → Option Format
  | "json" => some .json
  | "yaml" => some .yaml
  | _ => none

/-- The name of a format. -/
def formatText : Format → String
  | .json => "json"
  | .yaml => "yaml"

/-- How methods are named. -/
structure Naming where
  aliases : Table String String := []
  deriveMissingIds : Bool := false
deriving Repr, DecidableEq

/-- Where models come from, and the directory that they are imported from. -/
structure ModelSettings where
  source : ModelSource := .none
  importDir : String := "models"
deriving Repr, DecidableEq

/-- Generic credentials, and the header for a key. -/
structure AuthSettings where
  legacyFallback : Bool := true
  apiKeyHeader : String := "X-API-Key"
deriving Repr, DecidableEq

/-- What is printed. -/
structure OutputSettings where
  format : Format := .json
deriving Repr, DecidableEq

/-- The settings of a project. -/
structure Settings where
  input : String := "openapi.yaml"
  naming : Naming := {}
  models : ModelSettings := {}
  auth : AuthSettings := {}
  output : OutputSettings := {}
deriving Repr, DecidableEq

/-! ## §2. Reading -/

/-- Read how methods are named. -/
def Naming.reader : Reader Naming := fun p n => do
  let f ← Fields.of ["aliases", "derive_missing_operation_ids"] p n
  return {
    aliases := ← f.defaulted 0 [] (Reader.table Reader.text)
    deriveMissingIds := ← f.defaulted 1 false Reader.bool }

/-- Read where models come from. -/
def ModelSettings.reader : Reader ModelSettings := fun p n => do
  let f ← Fields.of ["resolver", "import_dir"] p n
  return {
    source := ← f.defaulted 0 .none (Reader.choice ModelSource.ofText?)
    importDir := ← f.defaulted 1 "models" Reader.text }

/-- Read about generic credentials. -/
def AuthSettings.reader : Reader AuthSettings := fun p n => do
  let f ← Fields.of ["legacy_fallback", "api_key_header"] p n
  return {
    legacyFallback := ← f.defaulted 0 true Reader.bool
    apiKeyHeader := ← f.defaulted 1 "X-API-Key" Reader.text }

/-- Read what is printed. -/
def OutputSettings.reader : Reader OutputSettings := fun p n => do
  let f ← Fields.of ["format"] p n
  return { format := ← f.defaulted 0 .json (Reader.choice formatOfText?) }

namespace Settings

/-- Read settings. -/
def reader : Reader Settings := fun p n => do
  let f ← Fields.of ["input", "naming", "models", "auth", "output"] p n
  return {
    input := ← f.defaulted 0 "openapi.yaml" Reader.text
    naming := ← f.defaulted 1 {} Naming.reader
    models := ← f.defaulted 2 {} ModelSettings.reader
    auth := ← f.defaulted 3 {} AuthSettings.reader
    output := ← f.defaulted 4 {} OutputSettings.reader }

/-- Why a file has no settings. -/
inductive LoadError
  | notText
  | unreadable (fault : Fault)
deriving Repr, DecidableEq

/-- The file of the settings, in the folder of the project. -/
def fileName : String := ".opcomp.yaml"

/-- The message of an error. -/
def LoadError.message : LoadError → String
  | .notText => "failed to read config " ++ fileName ++ ": stream did not contain valid UTF-8"
  | .unreadable fault => "failed to parse config " ++ fileName ++ ": " ++ fault.message

/-- The settings of a text. -/
def parse (text : String) : Except LoadError Settings :=
  match Format.yaml.read reader text with
  | .ok s => .ok s
  | .error fault => .error (.unreadable fault)

/-- The settings of the bytes of a file. -/
def load (bytes : ByteArray) : Except LoadError Settings :=
  match String.fromUTF8? bytes with
  | some text => parse text
  | none => .error .notText

/-! ## §3. Using settings -/

/-- The options of a compilation. -/
def options (s : Settings) : Options :=
  ⟨s.naming.aliases, s.naming.deriveMissingIds, s.auth.legacyFallback, s.auth.apiKeyHeader⟩

/-- The source of models for a document. -/
def modelsFor (s : Settings) (d : Document) : Models :=
  match s.models.source with
  | .none => .none
  | .components => .ofDocument d s.models.importDir

/-- The file that a project begins with. -/
def initialText : String :=
  "# opcomp configuration\n" ++
  "input: openapi.yaml\n" ++
  "\n" ++
  "naming:\n" ++
  "  derive_missing_operation_ids: false   # true: name id-less operations after their route\n" ++
  "  aliases: \x7b\x7d\n" ++
  "    # get_user: fetchUser               # sanitized operationId → method name\n" ++
  "\n" ++
  "models:\n" ++
  "  resolver: none          # none | components\n" ++
  "  import_dir: models\n" ++
  "\n" ++
  "auth:\n" ++
  "  legacy_fallback: true   # bearer / API key fallback for operations without \x60security\x60\n" ++
  "  api_key_header: X-API-Key\n" ++
  "\n" ++
  "output:\n" ++
  "  format: json            # json | yaml\n"

end Settings

end ApiMethods
