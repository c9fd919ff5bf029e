/-
  ApiMethods.Wire.Base64 — base64, and the values of authorization headers.
-/

namespace ApiMethods.Wire

/-! ## §1. Base64 -/

/-- The digit of a number below 64. -/
def base64Digit (n : Nat) : Char :=
  if n < 26 then Char.ofNat (65 + n)
  else if n < 52 then Char.ofNat (71 + n)
  else if n < 62 then Char.ofNat (n - 4)
  else if n = 62 then '+'
  else '/'

/-- Bytes in base64: four digits for three bytes, filled up with `=` at the end. -/
def base64 : List UInt8 → List Char
  | [] => []
  | [a] =>
    let n := a.toNat * 65536
    [base64Digit (n / 262144), base64Digit (n / 4096 % 64), '=', '=']
  | [a, b] =>
    let n := a.toNat * 65536 + b.toNat * 256
    [base64Digit (n / 262144), base64Digit (n / 4096 % 64), base64Digit (n / 64 % 64), '=']
  | a :: b :: c :: rest =>
    let n := a.toNat * 65536 + b.toNat * 256 + c.toNat
    base64Digit (n / 262144) :: base64Digit (n / 4096 % 64) :: base64Digit (n / 64 % 64) ::
      base64Digit (n % 64) :: base64 rest

/-! ## §2. Authorization headers -/

/-- The value for a user and a password. -/
def basicAuthorization (user password : String) : String :=
  let bytes := (user ++ ":" ++ password).toList.flatMap String.utf8EncodeChar
  "Basic " ++ String.ofList (base64 bytes)

/-- The value for a token, with the word in front of it. -/
def bearerAuthorization (start token : String) : String := start ++ " " ++ token

end ApiMethods.Wire
