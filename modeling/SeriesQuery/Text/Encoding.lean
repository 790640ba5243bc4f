import SeriesQuery.Text.Letter

/-!
# Texts in URLs and headers

`percentEncode` writes every byte of a text that a path may not hold as a percent sign and two
hexadecimal digits; `base64` writes three bytes as four letters.
-/

namespace SeriesQuery.Text

/-- The bytes of the UTF-8 form of a text. -/
def bytes (s : String) : List Nat := s.toUTF8.toList.map UInt8.toNat

/-- Upper-case hexadecimal digit of a number below 16. -/
def upperHexDigit (n : Nat) : Char := (Nat.digitChar n).toUpper

/-- One byte of a path. -/
def percentByte (b : Nat) : List Char :=
  let c := Char.ofNat b
  if b < 128 && (isAsciiAlphanumeric c || c == '-' || c == '_' || c == '.' || c == '~') then [c]
  else ['%', upperHexDigit (b / 16), upperHexDigit (b % 16)]

/-- A text as one segment of a path. -/
def percentEncode (s : String) : String := String.ofList ((bytes s).flatMap percentByte)

/-- The letters of base 64. -/
def base64Letters : List Char :=
  "ABCDEFGHIJKLMNOPQRSTUVWXYZabcdefghijklmnopqrstuvwxyz0123456789+/".toList

/-- The letter of a number below 64. -/
def base64Letter (n : Nat) : Char := (base64Letters[n % 64]?).getD 'A'

/-- The letters of some bytes, three at a time, with equals signs for missing ones. -/
def base64Bytes : List Nat → List Char
  | a :: b :: c :: rest =>
    base64Letter (a / 4) :: base64Letter (a % 4 * 16 + b / 16) ::
      base64Letter (b % 16 * 4 + c / 64) :: base64Letter (c % 64) :: base64Bytes rest
  | [a, b] =>
    [base64Letter (a / 4), base64Letter (a % 4 * 16 + b / 16), base64Letter (b % 16 * 4), '=']
  | [a] => [base64Letter (a / 4), base64Letter (a % 4 * 16), '=', '=']
  | [] => []

/-- The bytes of a text in base 64. -/
def base64 (s : String) : String := String.ofList (base64Bytes (bytes s))

end SeriesQuery.Text
