/-
  ApiMethods.Wire.Percent — percent-encoding, and the texts made with it.

  Letters, digits and `-_.~` stay; of every other character each byte of its UTF-8 form is
  written as `%` and two hexadecimal digits.  Forms and cookie headers are pairs encoded in
  this way.
-/

namespace ApiMethods.Wire

/-! ## §1. Components -/

/-- The characters that stay as they are. -/
def isUnreserved (c : Char) : Bool :=
  c.isAlphanum || c = '-' || c = '_' || c = '.' || c = '~'

/-- The digit of a number below sixteen, a letter in upper case. -/
def hexDigit (n : Nat) : Char :=
  if n < 10 then Char.ofNat (48 + n) else Char.ofNat (55 + n)

/-- A byte as an escape. -/
def escapeByte (b : UInt8) : List Char := ['%', hexDigit (b.toNat / 16), hexDigit (b.toNat % 16)]

/-- A character of a component. -/
def encodeChar (c : Char) : List Char :=
  if isUnreserved c then [c] else (String.utf8EncodeChar c).flatMap escapeByte

/-- The characters of a component. -/
def encodeChars (cs : List Char) : List Char := cs.flatMap encodeChar

/-- A text as a component of a URI. -/
def encode (s : String) : String := String.ofList (encodeChars s.toList)

/-! ## §2. Pairs -/

/-- A pair of a form. -/
def formPair (p : String × String) : List Char :=
  encodeChars p.1.toList ++ '=' :: encodeChars p.2.toList

/-- The body of a form. -/
def form (pairs : List (String × String)) : String :=
  String.ofList (['&'].intercalate (pairs.map formPair))

/-- A pair of a cookie header; the name stands as it is. -/
def cookiePair (p : String × String) : List Char := p.1.toList ++ '=' :: encodeChars p.2.toList

/-- The value of a cookie header. -/
def cookies (pairs : List (String × String)) : String :=
  String.ofList ([';', ' '].intercalate (pairs.map cookiePair))

end ApiMethods.Wire
