/-
  ApiMethods.Name.Identifier — identifiers out of operation ids.

  An identifier has ASCII letters, digits and `_`, and does not begin with a digit.  Every
  other character of an operation id becomes `_`; an id without any letter or digit has no
  identifier.
-/
import ApiMethods.Text.CharClass

namespace ApiMethods.Name

/-- The characters of an identifier. -/
def isIdentifierChar (c : Char) : Bool := c.isAlphanum || c = '_'

/-- A character as it stands in an identifier. -/
def identifierChar (c : Char) : Char := if isIdentifierChar c then c else '_'

/-- A text that begins with a digit gets a `_` in front. -/
def guardDigit : List Char → List Char
  | c :: rest => if c.isDigit then '_' :: c :: rest else c :: rest
  | [] => []

/-- The characters of the identifier that an operation id makes, if it makes one. -/
def identifierChars? (cs : List Char) : Option (List Char) :=
  let mapped := (Text.trim cs).map identifierChar
  if mapped.all (· = '_') then none else some (guardDigit mapped)

/-- The identifier that an operation id makes, if it makes one. -/
def identifier? (s : String) : Option String :=
  (identifierChars? s.toList).map String.ofList

/-- Whether a text is an identifier. -/
def isIdentifier : List Char → Bool
  | c :: rest => isIdentifierChar c && !c.isDigit && rest.all isIdentifierChar
  | [] => false

end ApiMethods.Name
