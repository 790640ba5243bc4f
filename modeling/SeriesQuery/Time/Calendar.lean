/-!
# The calendar

Dates of the Gregorian calendar, extended to all years, and their numbers of days since the first of
January 1970. Year 0 is the year before year 1.
-/

namespace SeriesQuery

/-- A year, a month and a day. -/
structure Date where
  /-- The year; zero and below are before year 1. -/
  year : Int
  /-- The month, from 1. -/
  month : Nat
  /-- The day of the month, from 1. -/
  day : Nat
  deriving DecidableEq

namespace Date

/-- Whether a year has a leap day. -/
def isLeap (year : Int) : Bool := year % 4 == 0 && (year % 100 != 0 || year % 400 == 0)

/-- The lengths of the months of a year. -/
def monthLengths (year : Int) : List Nat :=
  [31, if isLeap year then 29 else 28, 31, 30, 31, 30, 31, 31, 30, 31, 30, 31]

/-- The first year of dates. -/
def minYear : Int := -262143

/-- The last year of dates. -/
def maxYear : Int := 262142

/-- Whether there is such a date. -/
def isValid (d : Date) : Bool :=
  minYear ≤ d.year && d.year ≤ maxYear && 1 ≤ d.month && 1 ≤ d.day &&
    match (monthLengths d.year)[d.month - 1]? with
    | some length => d.day ≤ length
    | none => false

/-- Days from the first of January of year 1 to that of another year. -/
def daysBeforeYear (year : Int) : Int :=
  let y := year - 1
  365 * y + y / 4 - y / 100 + y / 400

/-- Days from the first of January of year 1 to that of 1970. -/
def epochDays : Int := 719162

/-- Days of a year before a month. -/
def daysBeforeMonth (year : Int) (month : Nat) : Nat :=
  ((monthLengths year).take (month - 1)).foldl (· + ·) 0

/-- Days since the first of January 1970. -/
def toDays (d : Date) : Int :=
  daysBeforeYear d.year + daysBeforeMonth d.year d.month + d.day - 1 - epochDays

/-- The month and the day after some days of a year, counted through the lengths of its months. -/
def monthAndDay (month day : Nat) : List Nat → Nat × Nat
  | [] => (month, day + 1)
  | length :: lengths =>
    if day < length then (month, day + 1) else monthAndDay (month + 1) (day - length) lengths

/-- The date some days after the first of January 1970. -/
def ofDays (days : Int) : Date :=
  let n := days + epochDays
  let guess := 400 * n / 146097 + 1
  let year :=
    if n < daysBeforeYear guess then guess - 1
    else if daysBeforeYear (guess + 1) ≤ n then guess + 1
    else guess
  let (month, day) := monthAndDay 1 (n - daysBeforeYear year).toNat (monthLengths year)
  { year, month, day }

end Date

end SeriesQuery
