import SeriesQuery.Text.Letter

/-!
# Character references

A character may be written as a reference: a name between an ampersand and a semicolon, or a decimal
number of up to five digits or a hexadecimal one of up to four. `decodeEntities` resolves every
reference once, from left to right, and leaves alone what is none.
-/

namespace SeriesQuery.Text

/-- The named references, after their ampersand. -/
def namedEntities : List (List Char × Char) :=
  [(['a', 'm', 'p', ';'], '&'), (['g', 't', ';'], '>'), (['l', 't', ';'], '<'),
    (['q', 'u', 'o', 't', ';'], '"'), (['#', '3', '9', ';'], '\'')]

/-- Whether a character is a hexadecimal digit. -/
def isHexDigit (c : Char) : Bool :=
  isAsciiDigit c || ('a' ≤ c && c ≤ 'f') || ('A' ≤ c && c ≤ 'F')

/-- The value of a hexadecimal digit. -/
def hexDigitValue (c : Char) : Nat :=
  if isAsciiDigit c then digitValue c
  else if c.toNat < 'a'.toNat then c.toNat - 'A'.toNat + 10
  else c.toNat - 'a'.toNat + 10

/-- The number that a run of hexadecimal digits writes. -/
def natOfHexDigits (ds : List Char) : Nat := ds.foldl (fun n d => 16 * n + hexDigitValue d) 0

/-- The character with a number, if there is one. -/
def charOfNat? (n : Nat) : Option Char := if n.isValidChar then some (Char.ofNat n) else none

/-- The digits at the start of a text, if there are at most `width` and a semicolon follows. -/
def digitsToSemicolon? (isDigit : Char → Bool) (width : Nat) (s : List Char) :
    Option (List Char) :=
  let ds := s.takeWhile isDigit
  if ds.length ∈ List.range' 1 width ∧ (s.drop ds.length).head? = some ';' then some ds else none

/-- The character of a reference whose text follows an ampersand, and the length of that text. -/
def entity? (s : List Char) : Option (Char × Nat) :=
  match namedEntities.find? fun (name, _) => (after? name s).isSome with
  | some (name, c) => some (c, name.length)
  | none =>
    match s with
    | '#' :: 'x' :: rest => do
      let ds ← digitsToSemicolon? isHexDigit 4 rest
      let c ← charOfNat? (natOfHexDigits ds)
      some (c, ds.length + 3)
    | '#' :: rest => do
      let ds ← digitsToSemicolon? isAsciiDigit 5 rest
      let c ← charOfNat? (natOfDigits ds)
      some (c, ds.length + 2)
    | _ => none

/-- The characters with every reference resolved. -/
def decodeEntityChars (s : List Char) : List Char :=
  match s with
  | [] => []
  | c :: rest =>
    if c = '&' then
      match entity? rest with
      | some (d, n) => d :: decodeEntityChars (rest.drop n)
      | none => c :: decodeEntityChars rest
    else c :: decodeEntityChars rest
termination_by s.length

/-- The text with every reference resolved. -/
def decodeEntities (s : String) : String := String.ofList (decodeEntityChars s.toList)

end SeriesQuery.Text
