import SeriesQuery.Number.Power
import SeriesQuery.Text.Blank
import SeriesQuery.Text.Bytes
import SeriesQuery.Text.Letter
import SeriesQuery.Time.Calendar

/-!
# Points in time

Times are milliseconds since the first of January 1970, and a text for one is read by
`Stamp.instant`, which wants a date, a time and an offset from universal time, or by `Stamp.local?`
and `Stamp.day?`, which want no offset and are looser: numbers may be short and have blanks before
them, and a year may have a sign. Second 60 counts as the next second.
-/

namespace SeriesQuery

/-- Why a text is no point in time. -/
inductive StampError where
  /-- The text ends too early. -/
  | tooShort
  /-- A character that cannot stand where it does. -/
  | invalid
  /-- A number that is no hour, day or the like. -/
  | outOfRange
  /-- Something follows the point in time. -/
  | tooLong
  deriving DecidableEq

/-- The wording of the error. -/
def StampError.message : StampError → String
  | tooShort => "premature end of input"
  | invalid => "input contains invalid characters"
  | outOfRange => "input is out of range"
  | tooLong => "trailing input"

namespace Stamp

/-- A time of day, in whole units and nanoseconds. -/
structure Clock where
  hour : Nat
  minute : Nat
  second : Nat
  nanosecond : Nat

/-- Whether there is such a time of day; the last second of a minute may be followed by a 60th. -/
def Clock.isValid (c : Clock) : Bool := c.hour < 24 && c.minute < 60 && c.second ≤ 60

/-- Milliseconds of a date and a time of day at an offset of some seconds from universal time. -/
def milliseconds (date : Date) (clock : Clock) (offset : Int) : Int :=
  (date.toDays * 86400 + clock.hour * 3600 + clock.minute * 60 + clock.second - offset) * 1000 +
    clock.nanosecond / 1000000

/-- The number that a list of digits writes; nothing if one of them is none. -/
def number? (ds : List Char) : Option Nat :=
  if ds.all Text.isAsciiDigit then some (Text.natOfDigits ds) else none

/-- Reads a fraction of a second after its point, in nanoseconds; digits after the ninth are
dropped. -/
def nanoseconds (s : List Char) : Except StampError (Nat × List Char) :=
  match s, s.takeWhile Text.isAsciiDigit with
  | [], _ => .error .tooShort
  | _, [] => .error .invalid
  | _, ds =>
    let kept := ds.take 9
    .ok (Text.natOfDigits kept * pow10 (9 - kept.length), s.dropWhile Text.isAsciiDigit)

/-- Reads a fraction of a second, if there is one. -/
def fraction (s : List Char) : Except StampError (Nat × List Char) :=
  match s with
  | '.' :: rest => nanoseconds rest
  | _ => .ok (0, s)

/-- Reads two digits. A text of less than two bytes is too short, and every other is invalid. -/
def twoDigits (s : List Char) : Except StampError (Nat × List Char) :=
  match s with
  | a :: b :: rest =>
    match number? [a, b] with
    | some n => .ok (n, rest)
    | none => .error .invalid
  | _ => .error (if Text.byteCount s < 2 then .tooShort else .invalid)

/-- Reads hours and minutes of an offset after its sign, in seconds. -/
def hoursAndMinutes (s : List Char) : Except StampError (Int × List Char) := do
  let (hours, s) ← twoDigits s
  match s with
  | [] => throw .tooShort
  | ':' :: s =>
    let (minutes, s) ← twoDigits s
    if minutes < 60 then return (hours * 3600 + minutes * 60, s) else throw .outOfRange
  | _ => throw .invalid

/-- Reads an offset from universal time, in seconds. -/
def offset (s : List Char) : Except StampError (Int × List Char) :=
  match s with
  | [] => .error .tooShort
  | c :: rest =>
    if c = 'Z' ∨ c = 'z' then .ok (0, rest)
    else if c = '+' then hoursAndMinutes rest
    else if c = '-' ∨ c = '\u2212' then
      (hoursAndMinutes rest).map fun (seconds, after) => (-seconds, after)
    else .error .invalid

/-- Reads a date with two or four digits to each number. -/
def date (s : List Char) : Except StampError (Date × List Char) :=
  match s with
  | y1 :: y2 :: y3 :: y4 :: '-' :: m1 :: m2 :: '-' :: d1 :: d2 :: rest =>
    match number? [y1, y2, y3, y4], number? [m1, m2], number? [d1, d2] with
    | some year, some month, some day =>
      let date : Date := { year, month, day }
      if date.isValid then .ok (date, rest) else .error .outOfRange
    | _, _, _ => .error .invalid
  | _ => .error .invalid

/-- Reads a time of day with two digits to each number, and perhaps a fraction. -/
def clock (s : List Char) : Except StampError (Clock × List Char) :=
  match s with
  | h1 :: h2 :: ':' :: m1 :: m2 :: ':' :: s1 :: s2 :: rest =>
    match number? [h1, h2], number? [m1, m2], number? [s1, s2] with
    | some hour, some minute, some second => do
      let (nanosecond, rest) ← fraction rest
      let clock : Clock := { hour, minute, second, nanosecond }
      if clock.isValid then .ok (clock, rest) else .error .outOfRange
    | _, _, _ => .error .invalid
  | _ => .error .invalid

/-- Reads what separates a date from a time of day. -/
def separator (s : List Char) : Except StampError (List Char) :=
  match s with
  | c :: rest => if c = 'T' ∨ c = 't' ∨ c = ' ' then .ok rest else .error .invalid
  | [] => .error .invalid

/-- Milliseconds of a text with a date, a time and an offset. -/
def instant (s : String) : Except StampError Int :=
  let s := s.toList
  if Text.byteCount s < 19 then .error .tooShort
  else do
    let (date, s) ← date s
    let (clock, s) ← clock (← separator s)
    let (seconds, rest) ← offset s
    if !rest.isEmpty then .error .tooLong
    else if 86400 ≤ seconds.natAbs then .error .outOfRange
    else .ok (milliseconds date clock seconds)

/-- Reads a number of at most `width` digits, with blanks before it. -/
def short? (width : Nat) (s : List Char) : Option (Nat × List Char) :=
  let s := Text.trimLeft s
  match (s.take width).takeWhile Text.isAsciiDigit with
  | [] => none
  | ds => some (Text.natOfDigits ds, s.drop ds.length)

/-- Reads digits, as many as there are. -/
def digits? (s : List Char) : Option (Nat × List Char) :=
  match s.takeWhile Text.isAsciiDigit with
  | [] => none
  | ds => some (Text.natOfDigits ds, s.dropWhile Text.isAsciiDigit)

/-- Reads a year: at most four digits, or a sign and any number of them. -/
def year? (s : List Char) : Option (Int × List Char) :=
  match Text.trimLeft s with
  | '+' :: rest => (digits? rest).map fun (n, after) => ((n : Int), after)
  | '-' :: rest => (digits? rest).map fun (n, after) => (-(n : Int), after)
  | other => (short? 4 other).map fun (n, after) => ((n : Int), after)

/-- Reads one character. -/
def mark? (c : Char) (s : List Char) : Option (List Char) := Text.after? [c] s

/-- Reads a date whose numbers may be short. -/
def shortDate? (s : List Char) : Option (Date × List Char) := do
  let (year, s) ← year? s
  let (month, s) ← short? 2 (← mark? '-' s)
  let (day, s) ← short? 2 (← mark? '-' s)
  let date : Date := { year, month, day }
  if date.isValid then some (date, s) else none

/-- Reads a time of day whose numbers may be short. -/
def shortClock? (s : List Char) : Option (Clock × List Char) := do
  let (hour, s) ← short? 2 s
  let (minute, s) ← short? 2 (← mark? ':' s)
  let (second, s) ← short? 2 (← mark? ':' s)
  let (nanosecond, s) ← (fraction s).toOption
  let clock : Clock := { hour, minute, second, nanosecond }
  if clock.isValid then some (clock, s) else none

/-- Milliseconds of a text with a date and a time, in universal time. -/
def local? (s : String) : Option Int := do
  let (date, s) ← shortDate? s.toList
  let (clock, s) ← shortClock? (← mark? 'T' s)
  if s.isEmpty then some (milliseconds date clock 0) else none

/-- Milliseconds of the start of a day. -/
def day? (s : String) : Option Int := do
  let (date, s) ← shortDate? s.toList
  if s.isEmpty then some (milliseconds date ⟨0, 0, 0, 0⟩ 0) else none

end Stamp

end SeriesQuery
