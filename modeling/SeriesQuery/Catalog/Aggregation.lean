import SeriesQuery.Json.Order
import SeriesQuery.Text.Case
import SeriesQuery.Text.Split

/-!
# Aggregations

What can be computed from the values of one time bucket. `Aggregation.parse?` reads a name or an
alias in any letter case, `Aggregation.resolve` a configured list of them, and `Aggregation.apply`
computes: the numeric ones look at numbers only, and the counting ones at every value.
-/

namespace SeriesQuery

/-- What is computed from the values of one bucket; `none` keeps the values as they are. -/
inductive Aggregation where
  | average
  | count
  | countDistinct
  | max
  | min
  | sortedUnique
  | stddevPopulation
  | stddevSample
  | sum
  | unique
  | variancePopulation
  | varianceSample
  | none
  deriving DecidableEq

namespace Aggregation

/-- The name of an aggregation. -/
def name : Aggregation → String
  | average => "AVERAGE"
  | count => "COUNT"
  | countDistinct => "COUNT_DISTINCT"
  | max => "MAX"
  | min => "MIN"
  | sortedUnique => "SORTED_UNIQUE"
  | stddevPopulation => "STDDEV_POPULATION"
  | stddevSample => "STDDEV_SAMPLE"
  | sum => "SUM"
  | unique => "UNIQUE"
  | variancePopulation => "VARIANCE_POPULATION"
  | varianceSample => "VARIANCE_SAMPLE"
  | none => "NONE"

/-- The aggregations that a wildcard stands for, in order. -/
def grouping : List Aggregation :=
  [average, count, countDistinct, max, min, sortedUnique, stddevPopulation, stddevSample, sum,
    unique, variancePopulation, varianceSample]

/-- All aggregations. -/
def all : List Aggregation := grouping ++ [none]

/-- Further names. -/
def aliases : List (String × Aggregation) :=
  [("AVG", average), ("COUNT_UNIQUE", countDistinct), ("LENGTH", count),
    ("STDDEV", stddevPopulation), ("VARIANCE", variancePopulation)]

/-- The aggregation with exactly this name. -/
def ofName? (s : String) : Option Aggregation := all.find? fun a => a.name == s

/-- Reads a name or an alias, in any letter case and with blanks around it. -/
def parse? (s : String) : Option Aggregation :=
  let upper := Text.upper (Text.trim s)
  match aliases.lookup upper with
  | some a => some a
  | Option.none => ofName? upper

/-- Whether values are grouped into buckets. -/
def isGrouping (a : Aggregation) : Bool := a != none

/-- The function of the query language that computes it, if values are grouped. -/
def function? (a : Aggregation) : Option String :=
  if a.isGrouping then some a.name else Option.none

/-- The aggregations that a setting names, or the first name that is none: all that group for a
missing or blank setting or a star, and otherwise those of a list. -/
def resolve (setting : Option String) : Except String (List Aggregation) :=
  let setting := Text.trim (setting.getD "")
  if setting = "" ∨ setting = "*" then .ok grouping
  else (Text.items setting).mapM fun item =>
    match parse? item with
    | some a => .ok a
    | Option.none => .error item

/-- Whether a value occurs in a list, by plain equality. -/
def occurs (values : List Json) (v : Json) : Bool := values.any (Json.same · v)

/-- The values without repetitions, each at its first place. -/
def distinct (values : List Json) : List Json :=
  values.foldl (fun seen v => if occurs seen v then seen else seen ++ [v]) []

/-- The numbers among the values, as doubles. -/
def numbers (values : List Json) : List Float :=
  values.filterMap fun
    | .num n => some n.toFloat
    | _ => Option.none

/-- The sum of doubles from left to right. -/
def total (xs : List Float) : Float := xs.foldl (· + ·) 0.0

/-- The sum of squared distances from the mean. -/
def squares (xs : List Float) : Float :=
  let mean := total xs / Float.ofNat xs.length
  total (xs.map fun x => (x - mean) * (x - mean))

/-- A numeric aggregation of doubles; nothing where it has no value. -/
def ofNumbers (a : Aggregation) : List Float → Option Float
  | [] => if a = sum then some 0.0 else Option.none
  | x :: rest =>
    let xs := x :: rest
    let n := Float.ofNat xs.length
    match a with
    | average => some (total xs / n)
    | sum => some (total xs)
    | min => some (rest.foldl Binary64.least x)
    | max => some (rest.foldl Binary64.greatest x)
    | variancePopulation => some (squares xs / n)
    | stddevPopulation => some (squares xs / n).sqrt
    | varianceSample => if rest.isEmpty then Option.none else some (squares xs / (n - 1.0))
    | stddevSample => if rest.isEmpty then Option.none else some (squares xs / (n - 1.0)).sqrt
    | _ => Option.none

/-- The aggregation of the values of one bucket. -/
def apply (a : Aggregation) (values : List Json) : Json :=
  match a with
  | count => .nat values.length
  | countDistinct => .nat (distinct values).length
  | unique => .arr (distinct values)
  | sortedUnique => .arr ((distinct values).mergeSort Json.le)
  | none => .arr values
  | numeric =>
    match numeric.ofNumbers (numbers values) with
    | some x => .ofFloat x
    | Option.none => .null

end Aggregation

end SeriesQuery
