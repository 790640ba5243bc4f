import SeriesQuery.Text.LetterRanges

/-!
# Letters, numerals and digits

Character classes of the Unicode standard. Below 128 each class is decided by comparison, above by
the tables of ranges, so that a question about an ASCII character never looks at a table.
-/

namespace SeriesQuery.Text

/-- Whether some range holds the code point. -/
def inRanges (ranges : List (Nat × Nat)) (n : Nat) : Bool :=
  ranges.any fun (first, last) => first ≤ n && n ≤ last

/-- Whether a character is an ASCII letter. -/
def isAsciiLetter (c : Char) : Bool :=
  ('A' ≤ c && c ≤ 'Z') || ('a' ≤ c && c ≤ 'z')

/-- Whether a character is an ASCII digit. -/
def isAsciiDigit (c : Char) : Bool := '0' ≤ c && c ≤ '9'

/-- Whether a character is an ASCII letter or digit. -/
def isAsciiAlphanumeric (c : Char) : Bool := isAsciiLetter c || isAsciiDigit c

/-- Whether a character has the Unicode property Alphabetic. -/
def isLetter (c : Char) : Bool :=
  if c.toNat < 128 then isAsciiLetter c else inRanges letterRanges c.toNat

/-- Whether a character belongs to a Unicode category for numbers. -/
def isNumeral (c : Char) : Bool :=
  if c.toNat < 128 then isAsciiDigit c else inRanges numeralRanges c.toNat

/-- Whether a character is a letter or a numeral. -/
def isAlphanumeric (c : Char) : Bool := isLetter c || isNumeral c

/-- Whether a character is a decimal digit of some script. -/
def isDecimalDigit (c : Char) : Bool :=
  if c.toNat < 128 then isAsciiDigit c else inRanges digitRanges c.toNat

/-- The text after a word that it starts with. -/
def after? : (word s : List Char) → Option (List Char)
  | [], s => some s
  | c :: word, d :: s => if c = d then after? word s else none
  | _ :: _, [] => none

/-- The value of an ASCII digit. -/
def digitValue (c : Char) : Nat := c.toNat - '0'.toNat

/-- The number that a run of ASCII digits writes, most significant first. -/
def natOfDigits (ds : List Char) : Nat := ds.foldl (fun n d => 10 * n + digitValue d) 0

/-- The unsigned number written by a whole text: an optional plus sign and at least one digit. -/
def parseNat? (s : List Char) : Option Nat :=
  let ds := match s with
    | '+' :: rest => rest
    | _ => s
  if ds.isEmpty || !ds.all isAsciiDigit then none else some (natOfDigits ds)

/-- The integer written by a whole text: an optional sign and at least one digit. -/
def parseInt? (s : List Char) : Option Int :=
  match s with
  | '-' :: rest =>
    if rest.isEmpty || !rest.all isAsciiDigit then none else some (-(natOfDigits rest : Int))
  | _ => (parseNat? s).map Int.ofNat

/-- The signed 64-bit integer written by a whole text. -/
def parseInt64? (s : List Char) : Option Int64 :=
  match parseInt? s with
  | some z =>
    if Int64.minValue.toInt ≤ z ∧ z ≤ Int64.maxValue.toInt then some (Int64.ofInt z) else none
  | none => none

/-- The unsigned number below `limit` written by a whole text. -/
def parseBelow? (limit : Nat) (s : List Char) : Option Nat :=
  (parseNat? s).filter (· < limit)

end SeriesQuery.Text
