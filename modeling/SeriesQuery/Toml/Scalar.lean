import SeriesQuery.Json.Document
import SeriesQuery.Number.Nearest
import SeriesQuery.Text.Entity
import SeriesQuery.Time.Range

/-!
# Scalars of TOML

Texts in four kinds of quotation marks, numbers in four bases, truth values, dates and times. Every
reader takes what it reads from the start of a text and gives the rest. A date or a time is an
object with its text under one key.
-/

namespace SeriesQuery.Toml

/-- Whether a character is blank within a line. -/
def isBlank (c : Char) : Bool := c == ' ' || c == '\t'

/-- The text from its first character that is not blank. -/
def skipBlank (s : List Char) : List Char := s.dropWhile isBlank

/-- The text after a line end. -/
def newline? : List Char → Option (List Char)
  | '\n' :: rest => some rest
  | '\r' :: '\n' :: rest => some rest
  | _ => none

/-- Whether a character may stand in a comment or, quotation marks apart, in a text. -/
def isPrintable (c : Char) : Bool := c == '\t' || (32 ≤ c.toNat && c.toNat != 127)

/-- Reads the digits of a character's number. -/
def codePoint? (width : Nat) (s : List Char) : Option (Char × List Char) :=
  let ds := s.take width
  if ds.length = width && ds.all Text.isHexDigit then
    (Text.charOfNat? (Text.natOfHexDigits ds)).map (·, s.drop width)
  else none

/-- Reads an escape after its backslash. -/
def escape? : List Char → Option (Char × List Char)
  | 'b' :: rest => some (Char.ofNat 8, rest)
  | 't' :: rest => some ('\t', rest)
  | 'n' :: rest => some ('\n', rest)
  | 'f' :: rest => some (Char.ofNat 12, rest)
  | 'r' :: rest => some ('\r', rest)
  | '"' :: rest => some ('"', rest)
  | '\\' :: rest => some ('\\', rest)
  | 'u' :: rest => codePoint? 4 rest
  | 'U' :: rest => codePoint? 8 rest
  | _ => none

/-- Reads a text on one line after its opening mark; only one of the marks has escapes. -/
def line? (mark : Char) (escapes : Bool) : (fuel : Nat) → (seen : List Char) → List Char →
    Option (String × List Char)
  | 0, _, _ => none
  | _, _, [] => none
  | fuel + 1, seen, c :: rest =>
    if c = mark then some (String.ofList seen.reverse, rest)
    else if escapes && c = '\\' then
      match escape? rest with
      | some (c, rest) => line? mark escapes fuel (c :: seen) rest
      | none => none
    else if isPrintable c then line? mark escapes fuel (c :: seen) rest
    else none

/-- The text after blanks and line ends. -/
def skipLineEnds : List Char → List Char
  | '\r' :: '\n' :: rest => skipLineEnds rest
  | c :: rest => if isBlank c || c == '\n' then skipLineEnds rest else c :: rest
  | [] => []

/-- The text after a backslash at the end of a line: blanks and line ends are skipped. -/
def afterLineEnd? (s : List Char) : Option (List Char) := (newline? (skipBlank s)).map skipLineEnds

/-- Reads a text over several lines after its opening marks. Up to two marks may stand anywhere, and
also before the closing ones. -/
def lines? (mark : Char) (escapes : Bool) : (fuel : Nat) → (seen : List Char) → List Char →
    Option (String × List Char)
  | 0, _, _ => none
  | _, _, [] => none
  | fuel + 1, seen, c :: rest =>
    if c = mark then
      let marks := ((c :: rest).takeWhile (· == mark)).length
      if 3 ≤ marks then
        let kept := min marks 5 - 3
        some (String.ofList (seen.reverse ++ List.replicate kept mark), rest.drop (kept + 2))
      else lines? mark escapes fuel (c :: seen) rest
    else if escapes && c = '\\' then
      match escape? rest, afterLineEnd? rest with
      | some (c, rest), _ => lines? mark escapes fuel (c :: seen) rest
      | none, some rest => lines? mark escapes fuel seen rest
      | none, none => none
    else if isPrintable c then lines? mark escapes fuel (c :: seen) rest
    else
      match newline? (c :: rest) with
      | some rest => lines? mark escapes fuel ('\n' :: seen) rest
      | none => none

/-- Reads a text on one line with its marks. -/
def lineText? (s : List Char) : Option (String × List Char) :=
  match s with
  | '"' :: rest => line? '"' true (rest.length + 1) [] rest
  | '\'' :: rest => line? '\'' false (rest.length + 1) [] rest
  | _ => none

/-- Reads a text with its marks. -/
def text? (s : List Char) : Option (String × List Char) :=
  let afterNewline (s : List Char) := (newline? s).getD s
  match s with
  | '"' :: '"' :: '"' :: rest => lines? '"' true (rest.length + 1) [] (afterNewline rest)
  | '\'' :: '\'' :: '\'' :: rest => lines? '\'' false (rest.length + 1) [] (afterNewline rest)
  | _ => lineText? s

/-- Reads digits, of which any two may have an underscore between them. -/
def digits? (isDigit : Char → Bool) :
    (fuel : Nat) → List Char → Option (List Char × List Char)
  | fuel + 1, c :: rest =>
    if isDigit c then
      match rest with
      | '_' :: more => (digits? isDigit fuel more).map fun (ds, rest) => (c :: ds, rest)
      | d :: _ =>
        if isDigit d then (digits? isDigit fuel rest).map fun (ds, rest) => (c :: ds, rest)
        else some ([c], rest)
      | [] => some ([c], [])
    else none
  | _, _ => none

/-- Reads decimal digits without a needless leading zero. -/
def wholeDigits? (s : List Char) : Option (List Char × List Char) :=
  match s with
  | '0' :: rest => some (['0'], rest)
  | _ => digits? Text.isAsciiDigit (s.length + 1) s

/-- Reads a sign; true for minus. -/
def sign (s : List Char) : Bool × List Char :=
  match s with
  | '-' :: rest => (true, rest)
  | '+' :: rest => (false, rest)
  | _ => (false, s)

/-- An integer of 64 bits. -/
def int64? (z : Int) : Option Document :=
  if Int64.minValue.toInt ≤ z ∧ z ≤ Int64.maxValue.toInt then some (.num (some (.int z))) else none

/-- Reads digits of a base after its letter. -/
def based? (base : Nat) (isDigit : Char → Bool) (s : List Char) :
    Option (Document × List Char) := do
  let (ds, rest) ← digits? isDigit (s.length + 1) s
  let d ← int64? (ds.foldl (fun n c => base * n + Text.hexDigitValue c) 0 : Nat)
  some (d, rest)

/-- Reads the exponent of a double; nothing where there is none. -/
def exponent? (s : List Char) : Option (Option Int × List Char) :=
  match s with
  | c :: rest =>
    if c = 'e' ∨ c = 'E' then do
      let (minus, rest) := sign rest
      let (ds, rest) ← digits? Text.isAsciiDigit (rest.length + 1) rest
      let n : Int := Text.natOfDigits ds
      some (some (if minus then -n else n), rest)
    else some (none, s)
  | [] => some (none, [])

/-- Reads the digits after a point; nothing where there is none. -/
def fraction? (s : List Char) : Option (Option (List Char) × List Char) :=
  match s with
  | '.' :: rest =>
    (digits? Text.isAsciiDigit (rest.length + 1) rest).map fun (ds, rest) => (some ds, rest)
  | _ => some (none, s)

/-- Reads a decimal number. A double that is too large is refused, unless it is negative. -/
def decimal? (s : List Char) : Option (Document × List Char) := do
  let (minus, s) := sign s
  if let some rest := Text.after? "inf".toList s then
    some (.num (some (.float (if minus then -1.0 / 0.0 else 1.0 / 0.0))), rest)
  else if let some rest := Text.after? "nan".toList s then
    some (.num (some (.float (0.0 / 0.0))), rest)
  else
    let (whole, s) ← wholeDigits? s
    let (part, s) ← fraction? s
    let (e, s) ← exponent? s
    if part.isSome || e.isSome then
      let part := part.getD []
      let x := Nearest.ofDecimal (Text.natOfDigits (whole ++ part)) (e.getD 0 - part.length)
      let x := if minus then -x else x
      if x == 1.0 / 0.0 then none else some (.num (some (.float x)), s)
    else
      let n : Int := Text.natOfDigits whole
      let d ← int64? (if minus then -n else n)
      some (d, s)

/-- Reads a number. -/
def number? (s : List Char) : Option (Document × List Char) :=
  match s with
  | '0' :: 'x' :: rest => based? 16 Text.isHexDigit rest
  | '0' :: 'o' :: rest => based? 8 (fun c => '0' ≤ c && c ≤ '7') rest
  | '0' :: 'b' :: rest => based? 2 (fun c => c == '0' || c == '1') rest
  | _ => decimal? s

/-- Reads a number of exactly `width` digits within bounds. -/
def fixed? (width low high : Nat) (s : List Char) : Option (Nat × List Char) :=
  let ds := s.take width
  let n := Text.natOfDigits ds
  if ds.length = width && ds.all Text.isAsciiDigit && low ≤ n && n ≤ high then
    some (n, s.drop width)
  else none

/-- Reads a date. -/
def date? (s : List Char) : Option (String × List Char) := do
  let (year, s) ← fixed? 4 0 9999 s
  let (month, s) ← fixed? 2 1 12 (← Text.after? ['-'] s)
  let (day, s) ← fixed? 2 1 31 (← Text.after? ['-'] s)
  if (Date.mk year month day).isValid then
    some (paddedNat 4 year ++ "-" ++ paddedNat 2 month ++ "-" ++ paddedNat 2 day, s)
  else none

/-- The fraction of a second, of which nine digits count, without zeros at its end. -/
def fractionText (ds : List Char) : String :=
  match ((ds.take 9).reverse.dropWhile (· == '0')).reverse with
  | [] => ""
  | kept => String.ofList ('.' :: kept)

/-- Reads a time of day. -/
def time? (s : List Char) : Option (String × List Char) := do
  let (hour, s) ← fixed? 2 0 23 s
  let (minute, s) ← fixed? 2 0 59 (← Text.after? [':'] s)
  let (second, s) ← fixed? 2 0 60 (← Text.after? [':'] s)
  let clock := paddedNat 2 hour ++ ":" ++ paddedNat 2 minute ++ ":" ++ paddedNat 2 second
  match s with
  | '.' :: rest =>
    match rest.takeWhile Text.isAsciiDigit with
    | [] => none
    | ds => some (clock ++ fractionText ds, rest.drop ds.length)
  | _ => some (clock, s)

/-- Reads an offset from universal time; an empty text where there is none. -/
def offset? (s : List Char) : Option (String × List Char) :=
  match s with
  | c :: rest =>
    if c = 'Z' ∨ c = 'z' then some ("Z", rest)
    else if c = '+' ∨ c = '-' then do
      let (hours, rest) ← fixed? 2 0 23 rest
      let (minutes, rest) ← fixed? 2 0 59 (← Text.after? [':'] rest)
      let mark := if c = '-' && 0 < hours + minutes then "-" else "+"
      some (mark ++ paddedNat 2 hours ++ ":" ++ paddedNat 2 minutes, rest)
    else some ("", s)
  | [] => some ("", [])

/-- Reads a date with a time of day, or one of the two. -/
def moment? (s : List Char) : Option (String × List Char) :=
  match date? s with
  | none => time? s
  | some (date, rest) =>
    match rest with
    | c :: more =>
      if c = 'T' ∨ c = 't' ∨ c = ' ' then
        match time? more with
        | some (time, rest) =>
          (offset? rest).map fun (offset, rest) => (date ++ "T" ++ time ++ offset, rest)
        | none => some (date, rest)
      else some (date, rest)
    | [] => some (date, [])

/-- The key that the text of a date or a time stands under. -/
def momentKey : String := "$__toml_private_datetime"

/-- Reads a scalar. -/
def scalar? (s : List Char) : Option (Document × List Char) :=
  match s with
  | '"' :: _ => (text? s).map fun (t, rest) => (.str (some t), rest)
  | '\'' :: _ => (text? s).map fun (t, rest) => (.str (some t), rest)
  | 't' :: _ => (Text.after? "true".toList s).map (.bool true, ·)
  | 'f' :: _ => (Text.after? "false".toList s).map (.bool false, ·)
  | _ =>
    match moment? s with
    | some (t, rest) => some (.obj [(some momentKey, .str (some t))] true, rest)
    | none => number? s

end SeriesQuery.Toml
