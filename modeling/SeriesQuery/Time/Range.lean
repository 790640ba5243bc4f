import SeriesQuery.Time.Stamp
import SeriesQuery.Word

/-!
# Time ranges

A range holds the milliseconds from its start up to, not including, its end. Both are signed 64-bit
integers; `TimeRange.ofBounds?` accepts a start before the end and nothing else.
-/

namespace SeriesQuery

/-- The milliseconds from a start on and before an end. -/
structure TimeRange where
  /-- First millisecond. -/
  start : Int64
  /-- First millisecond after the range. -/
  stop : Int64
  deriving DecidableEq

namespace TimeRange

/-- The range between two bounds, if the first is before the second. -/
def ofBounds? (start stop : Int64) : Option TimeRange :=
  if start < stop then some ⟨start, stop⟩ else none

/-- The range of some hours before a point in time. -/
def lastHours (now hours : Int64) : Except Overflow TimeRange := do
  let span ← Word.mul (← Word.mul hours 3600) 1000
  return ⟨← Word.sub now span, now⟩

/-- Length of the range in milliseconds. -/
def duration (r : TimeRange) : Except Overflow Int64 := Word.sub r.stop r.start

/-- Whether a point in time lies in the range. -/
def contains (r : TimeRange) (t : Int64) : Bool := r.start ≤ t && t < r.stop

end TimeRange

/-- A number with at least `width` digits. -/
def paddedNat (width n : Nat) : String :=
  let ds := Nat.toDigits 10 n
  String.ofList (List.replicate (width - ds.length) '0' ++ ds)

/-- A year with at least four digits, and a sign where four digits without one do not do. -/
def yearText (year : Int) : String :=
  if 0 ≤ year ∧ year ≤ 9999 then paddedNat 4 year.toNat
  else (if year < 0 then "-" else "+") ++ paddedNat 4 year.natAbs

/-- The text of a date and a time in universal time, with milliseconds if there are any; a number of
milliseconds outside the years of dates is written as it is. -/
def instantText (ms : Int64) : String :=
  let t := ms.toInt
  let days := t / 86400000
  let date := Date.ofDays days
  if date.year < Date.minYear ∨ Date.maxYear < date.year then toString t
  else
    let ofDay := (t % 86400000).toNat
    let seconds := ofDay / 1000
    let left := ofDay % 1000
    yearText date.year ++ "-" ++ paddedNat 2 date.month ++ "-" ++ paddedNat 2 date.day ++ "T" ++
      paddedNat 2 (seconds / 3600) ++ ":" ++ paddedNat 2 (seconds / 60 % 60) ++ ":" ++
      paddedNat 2 (seconds % 60) ++ (if left = 0 then "" else "." ++ paddedNat 3 left) ++ "+00:00"

end SeriesQuery
