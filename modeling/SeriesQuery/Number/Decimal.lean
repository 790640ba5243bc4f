import SeriesQuery.Number.Nearest
import SeriesQuery.Text.Letter

/-!
# Doubles written as decimals

`Decimal.parse?` reads the whole of a text as a double: a sign, digits with a point anywhere among
them, and an exponent, or the words for an infinity and for what is no number. The result is the
nearest double.
-/

namespace SeriesQuery.Decimal

/-- The exponent that is the whole of a text: a letter, perhaps a sign, and digits; an empty text
stands for zero. -/
def exponent? (s : List Char) : Option Int :=
  match s with
  | [] => some 0
  | c :: rest => if c = 'e' ∨ c = 'E' then Text.parseInt? rest else none

/-- The double that is the whole of a text without a sign and without words. -/
def digits? (s : List Char) : Option Float :=
  let whole := s.takeWhile Text.isAsciiDigit
  let rest := s.dropWhile Text.isAsciiDigit
  let (part, rest) := match rest with
    | '.' :: rest => (rest.takeWhile Text.isAsciiDigit, rest.dropWhile Text.isAsciiDigit)
    | _ => ([], rest)
  if whole.isEmpty && part.isEmpty then none
  else (exponent? rest).map fun e => Nearest.ofDecimal (Text.natOfDigits (whole ++ part))
    (e - part.length)

/-- The double that is the whole of a text without a sign. -/
def unsigned? (s : List Char) : Option Float :=
  let word := String.ofList (s.map Char.toLower)
  if word = "inf" ∨ word = "infinity" then some (1.0 / 0.0)
  else if word = "nan" then some (0.0 / 0.0)
  else digits? s

/-- The double that is the whole of a text. -/
def parse? (s : List Char) : Option Float :=
  match s with
  | '-' :: rest => (unsigned? rest).map fun x => -x
  | '+' :: rest => unsigned? rest
  | _ => unsigned? s

end SeriesQuery.Decimal
