/-
  ApiMethods.Text.Words — splitting a text into words and writing them in a convention.

  THE SPLITTING RULE.  Characters that are neither letters nor numbers separate words.
  Inside such a piece a word ends
    * after a lower-case letter (or a number following one) when an upper-case letter comes
      next: `listUsers` is `list`, `Users`;
    * before the last capital of a run of capitals when a lower-case letter follows it:
      `HTTPServer` is `HTTP`, `Server`.

  The conventions (`PascalCase`, `camelCase`, `snake_case`, `SCREAMING_SNAKE`) then only
  decide the case of each word and what stands between two of them.
-/
import ApiMethods.Text.CaseMap

namespace ApiMethods.Text

/-! ## §1. Pieces between separators -/

/-- The maximal runs of letters and numbers, with the separators dropped.  `piece` is the run
    being read, last character first. -/
def pieces (piece : List Char) : List Char → List (List Char)
  | [] => [piece.reverse]
  | c :: rest =>
    if isAlphanumeric c then pieces (c :: piece) rest
    else piece.reverse :: pieces [] rest

/-! ## §2. Words inside a piece -/

/-- The case of the word read so far: nothing cased yet, or its last cased letter. -/
inductive Casing
  | fresh
  | lowercase
  | uppercase
deriving Repr, DecidableEq

/-- The casing after reading `c`, if no word ends there. -/
def Casing.next (k : Casing) (c : Char) : Casing :=
  if isLowercase c then .lowercase else if isUppercase c then .uppercase else k

/-- The words of a piece.  `word` is the word being read, last character first. -/
def wordsOf (word : List Char) (k : Casing) : List Char → List (List Char)
  | [] => []
  | [c] => [(c :: word).reverse]
  | c :: d :: rest =>
    if k.next c = .lowercase ∧ isUppercase d then
      (c :: word).reverse :: wordsOf [] .fresh (d :: rest)
    else if k = .uppercase ∧ isUppercase c ∧ isLowercase d then
      word.reverse :: wordsOf [c] .fresh (d :: rest)
    else wordsOf (c :: word) (k.next c) (d :: rest)

/-- The words of a text, in order. -/
def words (cs : List Char) : List (List Char) :=
  (pieces [] cs).flatMap (wordsOf [] .fresh)

/-! ## §3. The case of a word -/

/-- A word in lower case; a capital sigma that ends the word takes its final form. -/
def lowerWord : List Char → List Char
  | [] => []
  | [c] => if c = 'Σ' then ['ς'] else lower c
  | c :: rest => lower c ++ lowerWord rest

/-- A word in upper case. -/
def upperWord (w : List Char) : List Char := w.flatMap upper

/-- A word with its first character in upper case and the rest in lower case. -/
def capitalWord : List Char → List Char
  | [] => []
  | c :: rest => upper c ++ lowerWord rest

/-! ## §4. Conventions -/

/-- Every word capitalized, nothing between them: `ListUsers`. -/
def pascalCase (s : String) : String :=
  String.ofList ((words s.toList).flatMap capitalWord)

/-- The first word in lower case, the others capitalized: `listUsers`. -/
def camelCase (s : String) : String :=
  String.ofList <| match words s.toList with
    | [] => []
    | w :: rest => lowerWord w ++ rest.flatMap capitalWord

/-- Words in lower case joined by `_`: `list_users`. -/
def snakeCase (s : String) : String :=
  String.ofList (['_'].intercalate ((words s.toList).map lowerWord))

/-- Words in upper case joined by `_`: `LIST_USERS`. -/
def screamingSnakeCase (s : String) : String :=
  String.ofList (['_'].intercalate ((words s.toList).map upperWord))

end ApiMethods.Text
