/-
  ApiMethods.Main — the command line.

  The settings and the document are read from the current folder; everything else is the
  report.
-/
import ApiMethods.CommandLine.Report

namespace ApiMethods.CommandLine

/-- The bytes of a file. -/
def fileBytes (path : String) : IO (Except ReadError ByteArray) := do
  try
    return .ok (← IO.FS.readBinFile path)
  catch
    | .noFileOrDirectory .. => return .error .missing
    | e => return .error (.other (toString e))

/-- The text of a file. -/
def fileText (path : String) : IO (Except ReadError String) := do
  match ← fileBytes path with
  | .error e => return .error e
  | .ok bytes => match String.fromUTF8? bytes with
    | some text => return .ok text
    | none => return .error .notText

/-- The document that arguments ask about, if they ask about one. -/
def inputPath? (arguments : List String) (settings : Option ByteArray) : Option String := do
  let c ← Command.ofArguments? arguments
  let s ← (settingsOf settings).toOption
  c.input? s

/-- Run a command and leave its report. -/
def runArguments (arguments : List String) : IO UInt32 := do
  let settings := (← fileBytes Settings.fileName).toOption
  let content ← match inputPath? arguments settings with
    | some path => fileText path
    | none => pure (.error .missing)
  let r := report arguments settings fun _ => content
  if let some text := r.written then IO.FS.writeFile Settings.fileName text
  IO.print r.stdout
  IO.eprint r.stderr
  return r.status.toUInt32

end ApiMethods.CommandLine

/-- The program. -/
def main (arguments : List String) : IO UInt32 :=
  ApiMethods.CommandLine.runArguments arguments
