/-
  ApiMethods.Reference.Pointer — JSON pointers into a document.

  A pointer is `#` and then, for every step, a slash and the key with its tildes and slashes
  escaped.  `decode?` reads a pointer back into its steps.
-/
import ApiMethods.Text.Split

namespace ApiMethods.Reference.Pointer

/-! ## §1. Writing -/

/-- A character of a key: `~` becomes `~0` and `/` becomes `~1`. -/
def escapeChar (c : Char) : List Char :=
  if c = '~' then ['~', '0'] else if c = '/' then ['~', '1'] else [c]

/-- A key as one step of a pointer. -/
def escape (key : String) : List Char := key.toList.flatMap escapeChar

/-- The pointer that follows keys from the root. -/
def ofKeys (keys : List String) : String :=
  String.ofList ('#' :: keys.flatMap fun key => '/' :: escape key)

/-! ## §2. Reading -/

/-- Replace a tilde with the digit one by a slash. -/
def restoreSlashes : List Char → List Char
  | '~' :: '1' :: rest => '/' :: restoreSlashes rest
  | c :: rest => c :: restoreSlashes rest
  | [] => []

/-- Replace a tilde with the digit zero by a tilde. -/
def restoreTildes : List Char → List Char
  | '~' :: '0' :: rest => '~' :: restoreTildes rest
  | c :: rest => c :: restoreTildes rest
  | [] => []

/-- The key of a step: slashes are restored before tildes. -/
def unescape (step : List Char) : String := String.ofList (restoreTildes (restoreSlashes step))

/-- The keys of a pointer; none when the text is no pointer. -/
def decode? (pointer : String) : Option (List String) :=
  match pointer.toList with
  | ['#'] => some []
  | '#' :: '/' :: rest => some ((Text.splitOn '/' rest).map unescape)
  | _ => none

end ApiMethods.Reference.Pointer
