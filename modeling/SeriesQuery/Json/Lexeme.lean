import SeriesQuery.Json.Flaw
import SeriesQuery.Number
import SeriesQuery.Text.Letter

/-!
# Words, texts and numbers of the data format

Each reader takes the text from where its lexeme starts and gives what the lexeme says and the text
after it, or the first flaw. Half of a surrogate pair is a flaw that a reader can go on after, since
what is dropped may hold one.
-/

namespace SeriesQuery.Lexeme

/-- Whether a character is blank between lexemes. -/
def isSpace (c : Char) : Bool := c == ' ' || c == '\t' || c == '\n' || c == '\r'

/-- The text from its first character that is not blank. -/
def skipSpace (s : List Char) : List Char := s.dropWhile isSpace

/-- Reads a word that is known. -/
def readWord : (word s : List Char) → Except Flaw (List Char)
  | [], s => .ok s
  | _ :: _, [] => .error (.atEnd .endInValue)
  | e :: word, c :: s => if c = e then readWord word s else .error (.here .noWord (c :: s))

/-- The value of a hexadecimal digit. -/
def hexDigit? (c : Char) : Option Nat :=
  if Text.isAsciiDigit c then some (c.toNat - 48)
  else if 'a' ≤ c && c ≤ 'f' then some (c.toNat - 87)
  else if 'A' ≤ c && c ≤ 'F' then some (c.toNat - 55)
  else none

/-- The flaw of a text that does not start with four hexadecimal digits: four bytes are taken
before they are looked at. -/
def hexFlaw (s : List Char) : Flaw :=
  if Text.byteCount s < 4 then .atEnd .endInText else ⟨.badEscape, Text.byteCount s - 4⟩

/-- Reads four hexadecimal digits. -/
def readHex (s : List Char) : Except Flaw (Nat × List Char) :=
  match s with
  | a :: b :: c :: d :: rest =>
    match hexDigit? a, hexDigit? b, hexDigit? c, hexDigit? d with
    | some a, some b, some c, some d => .ok (((a * 16 + b) * 16 + c) * 16 + d, rest)
    | _, _, _, _ => .error (hexFlaw s)
  | _ => .error (hexFlaw s)

/-- One piece of a text: a character, or half of a surrogate pair with the flaw that it is. -/
inductive TextUnit where
  | char (c : Char)
  | half (why : Flaw)

/-- The flaw of the first half of a surrogate pair with no escape for the second half after it. -/
def halfPairFlaw : (rest : List Char) → Flaw
  | [] => .atEnd .endInText
  | c :: rest => .here .halfPair (c :: rest)

/-- Reads the first half of a surrogate pair, of which the digits were read, with the second. -/
def readPair (high : Nat) (s : List Char) : Except Flaw (TextUnit × List Char) :=
  match s with
  | '\\' :: 'u' :: rest => do
    let (low, after) ← readHex rest
    if 0xDC00 ≤ low ∧ low ≤ 0xDFFF then
      return (.char (Char.ofNat (0x10000 + (high - 0xD800) * 0x400 + (low - 0xDC00))), after)
    else return (.half (.before .loneSurrogate after), s)
  | '\\' :: rest => return (.half (halfPairFlaw rest), s)
  | _ => return (.half (halfPairFlaw s), s)

/-- Reads an escape after its backslash. -/
def readEscape (s : List Char) : Except Flaw (TextUnit × List Char) :=
  match s with
  | [] => .error (.atEnd .endInText)
  | '"' :: rest => .ok (.char '"', rest)
  | '\\' :: rest => .ok (.char '\\', rest)
  | '/' :: rest => .ok (.char '/', rest)
  | 'b' :: rest => .ok (.char (Char.ofNat 8), rest)
  | 'f' :: rest => .ok (.char (Char.ofNat 12), rest)
  | 'n' :: rest => .ok (.char '\n', rest)
  | 'r' :: rest => .ok (.char '\r', rest)
  | 't' :: rest => .ok (.char '\t', rest)
  | 'u' :: rest => do
    let (n, after) ← readHex rest
    if 0xDC00 ≤ n ∧ n ≤ 0xDFFF then return (.half (.before .loneSurrogate after), after)
    else if 0xD800 ≤ n ∧ n ≤ 0xDBFF then readPair n after
    else return (.char (Char.ofNat n), after)
  | _ => .error (.here .badEscape s)

/-- Reads a text after its opening quotation mark, where `seen` was read of it, last character
first, and `half` is the first half of a surrogate pair in it. Gives its characters, or the flaw of
that half; only a flaw if the text is not closed or holds a control character. -/
def readText : (fuel : Nat) → (seen : List Char) → (half : Option Flaw) → List Char →
    Except Flaw (Except Flaw String × List Char)
  | 0, _, half, _ => .error (half.getD (.atEnd .endInText))
  | _, _, half, [] => .error (half.getD (.atEnd .endInText))
  | fuel + 1, seen, half, c :: rest =>
    if c = '"' then
      match half with
      | none => .ok (.ok (String.ofList seen.reverse), rest)
      | some f => .ok (.error f, rest)
    else if c = '\\' then
      match readEscape rest with
      | .ok (.char c, rest) => readText fuel (c :: seen) half rest
      | .ok (.half f, rest) => readText fuel seen (half.or (some f)) rest
      | .error f => .error (half.getD f)
    else if c.toNat < 32 then .error (half.getD (.here .control (c :: rest)))
    else readText fuel (c :: seen) half rest

/-- The text after an opening quotation mark. -/
def text (s : List Char) : Except Flaw (Except Flaw String × List Char) :=
  readText (s.length + 1) [] none s

/-- The flaw of a number that stops where a digit has to be. -/
def digitFlaw : (rest : List Char) → Flaw
  | [] => .atEnd .endInValue
  | c :: rest => .here .badNumber (c :: rest)

/-- Reads the digits before the point: there is at least one, and no needless leading zero. -/
def readWhole (s : List Char) : Except Flaw (List Char × List Char) :=
  match s.span Text.isAsciiDigit with
  | ([], rest) => .error (digitFlaw rest)
  | ('0' :: d :: ds, rest) => .error (.here .badNumber (d :: ds ++ rest))
  | (ds, rest) => .ok (ds, rest)

/-- Reads the digits after the point of a number, if there is one. -/
def readFraction (s : List Char) : Except Flaw (Option (List Char) × List Char) :=
  match s with
  | '.' :: rest =>
    match rest.span Text.isAsciiDigit with
    | ([], rest) => .error (digitFlaw rest)
    | (ds, rest) => .ok (some ds, rest)
  | _ => .ok (none, s)

/-- Reads the exponent of a number, if there is one. -/
def readExponent (s : List Char) : Except Flaw (Option (Bool × List Char) × List Char) :=
  match s with
  | c :: rest =>
    if c = 'e' ∨ c = 'E' then
      let (minus, rest) := match rest with
        | '+' :: rest => (false, rest)
        | '-' :: rest => (true, rest)
        | _ => (false, rest)
      match rest.span Text.isAsciiDigit with
      | ([], rest) => .error (digitFlaw rest)
      | (ds, rest) => .ok (some (minus, ds), rest)
    else .ok (none, s)
  | [] => .ok (none, s)

/-- Reads the text of a number after its sign. -/
def readUnsigned (negative : Bool) (s : List Char) : Except Flaw (NumberText × List Char) := do
  let (whole, s) ← readWhole s
  let (fraction, s) ← readFraction s
  let (exponent, s) ← readExponent s
  return ({ negative, whole, fraction, exponent }, s)

/-- Reads the text of a number. -/
def readNumber (s : List Char) : Except Flaw (NumberText × List Char) :=
  match s with
  | '-' :: rest => readUnsigned true rest
  | c :: rest =>
    if Text.isAsciiDigit c then readUnsigned false (c :: rest) else .error (.here .noValue s)
  | [] => .error (.atEnd .endInValue)

/-- The digits of an exponent after the one with which it exceeds 31 bits. -/
def surplusDigits (seen : Nat) : List Char → List Char
  | [] => []
  | d :: ds =>
    let next := 10 * seen + Text.digitValue d
    if next < pow2 31 then surplusDigits next ds else ds

/-- The flaw of a number that is too large: behind the number, or behind the digit with which its
exponent exceeds 31 bits. -/
def sizeFlaw (t : NumberText) (rest : List Char) : Flaw :=
  .before .tooLarge (((t.exponent.map fun e => surplusDigits 0 e.2).getD []) ++ rest)

/-- The value of a number, or the flaw that it is too large, and the text after it. -/
def number (s : List Char) : Except Flaw (Except Flaw Number × List Char) := do
  let (t, rest) ← readNumber s
  match t.toNumber? with
  | some n => return (.ok n, rest)
  | none => return (.error (sizeFlaw t rest), rest)

end SeriesQuery.Lexeme
