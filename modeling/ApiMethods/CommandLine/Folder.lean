/-
  ApiMethods.CommandLine.Folder — the folder that a command runs in.

  A folder is a table of files, each under its path.  A path is followed step by step: a
  dot stays, two dots go up, and only the last step may lead to a file.  What lies outside
  of the folder is not there.
-/
import ApiMethods.Table
import ApiMethods.Text.Split

namespace ApiMethods.CommandLine

/-! ## §1. Why a file cannot be read -/

/-- The reasons. -/
inductive ReadError
  | missing
  | notFolder
  | folder
  | notText
  | other (message : String)
deriving Repr, DecidableEq

/-- The message of a reason. -/
def ReadError.message : ReadError → String
  | missing => "No such file or directory (os error 2)"
  | notFolder => "Not a directory (os error 20)"
  | folder => "Is a directory (os error 21)"
  | notText => "stream did not contain valid UTF-8"
  | other message => message

/-! ## §2. Following a path -/

/-- Files by the steps that lead to them. -/
abbrev Folder := Table (List String) String

namespace Folder

/-- The steps of a path. -/
def steps (path : String) : List String :=
  (Text.splitOn '/' path.toList).map String.ofList

/-- The folder with files under their names. -/
def ofFiles (files : List (String × String)) : Folder :=
  Table.ofEntries (files.map fun e => (steps e.1, e.2))

/-- Whether steps lead to a folder inside of this one. -/
def hasFolder (f : Folder) (place : List String) : Bool :=
  f.keys.any fun k => place.isPrefixOf k && k ≠ place

/-- Where further steps lead from a place. -/
def follow (f : Folder) (place : List String) : List String → Except ReadError (List String)
  | [] => .ok place
  | step :: rest =>
    if f.has place then .error .notFolder
    else if step = "" || step = "." then follow f place rest
    else if step = ".." then
      if place.isEmpty then .error .missing else follow f place.dropLast rest
    else
      let next := place ++ [step]
      if f.has next || f.hasFolder next then follow f next rest else .error .missing

/-- The content of the file at a path. -/
def read (f : Folder) (path : String) : Except ReadError String :=
  match steps path with
  | "" :: _ => .error .missing
  | steps => do
    let place ← f.follow [] steps
    match f.get? place with
    | some content => .ok content
    | none => .error .folder

end Folder

end ApiMethods.CommandLine
