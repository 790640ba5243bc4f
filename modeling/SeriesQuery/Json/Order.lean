import SeriesQuery.Json

/-!
# The order of values

Values of different kinds are ordered by kind: null, truth values, numbers, texts, arrays, objects.
Numbers are compared as doubles and texts by code point; two arrays, or two objects, are ties.
-/

namespace SeriesQuery.Json

/-- Rank of the kind of a value. -/
def rank : Json → Nat
  | null => 0
  | bool _ => 1
  | num _ => 2
  | str _ => 3
  | arr _ => 4
  | obj _ => 5

/-- The order of two doubles. -/
def compareFloats (x y : Float) : Ordering :=
  if x < y then .lt else if y < x then .gt else .eq

/-- The order of two values. -/
def order : Json → Json → Ordering
  | bool a, bool b => compare a b
  | num a, num b => compareFloats a.toFloat b.toFloat
  | str a, str b => compare a b
  | a, b => compare a.rank b.rank

/-- Whether a value is not above another. -/
def le (a b : Json) : Bool := order a b != .gt

end SeriesQuery.Json
