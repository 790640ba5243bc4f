import SeriesQuery.Number.Nearest
import SeriesQuery.Number.Shortest
import SeriesQuery.Text.Letter

/-!
# Numbers of the data format

A `Number` is an integer of 64 bits, signed or unsigned, or a finite double; the two kinds stay
apart, so that an integer keeps every digit and `1` is not `1.0`. `Number.ofFloat?` is the way back
from a computation: a whole result below `2 ^ 53` becomes an integer.
-/

namespace SeriesQuery

/-- A number of the data format. -/
inductive Number where
  /-- An integer from `-2 ^ 63` up to, not including, `2 ^ 64`. -/
  | int (z : Int)
  /-- A finite double. -/
  | float (x : Float)

namespace Number

/-- Whether the number is one that the data format has. -/
def Valid : Number → Prop
  | int z => Int64.minValue.toInt ≤ z ∧ z < UInt64.size
  | float x => Binary64.isFinite x = true

/-- The double nearest to the number. -/
def toFloat : Number → Float
  | int z => Float.ofInt z
  | float x => x

/-- Equality that keeps integers and doubles apart. -/
def same : Number → Number → Bool
  | int a, int b => a == b
  | float a, float b => a == b
  | _, _ => false

/-- The number as a signed 64-bit integer, if it is an integer that fits. -/
def toInt64? : Number → Option Int64
  | int z =>
    if Int64.minValue.toInt ≤ z ∧ z ≤ Int64.maxValue.toInt then some (Int64.ofInt z) else none
  | float _ => none

/-- The integer written in a number, if it is one. -/
def toInt? : Number → Option Int
  | int z => some z
  | float _ => none

/-- Doubles of this magnitude and more are not taken for integers. -/
def wholeLimit : Float := 9007199254740992

/-- A computed double as a number: an integer when it is whole and below the limit. -/
def ofFloat? (x : Float) : Option Number :=
  if Binary64.isWhole x && x.abs < wholeLimit then
    some (int (Binary64.toInt64 x).toInt)
  else if Binary64.isFinite x then some (float x)
  else none

/-- The text of the number. -/
def text : Number → String
  | int z => toString z
  | float x => Shortest.text x

end Number

/-- What was read of a number text before its value is taken. -/
structure NumberText where
  /-- Whether it starts with a minus sign. -/
  negative : Bool
  /-- Digits before the point. -/
  whole : List Char
  /-- Digits after the point, if there is one. -/
  fraction : Option (List Char)
  /-- Sign (true for minus) and digits of the exponent, if there is one. -/
  exponent : Option (Bool × List Char)

namespace NumberText

/-- Takes digits while the significand stays below `2 ^ 64`; gives it with the count of digits taken
and those left. -/
def takeDigits (significand taken : Nat) : List Char → Nat × Nat × List Char
  | [] => (significand, taken, [])
  | d :: rest =>
    let next := 10 * significand + Text.digitValue d
    if next < UInt64.size then takeDigits next (taken + 1) rest
    else (significand, taken, d :: rest)

/-- `10 ^ e` as a double, for `e` up to 308. -/
def powerOfTen (e : Nat) : Float := Nearest.ofDecimal 1 e

/-- Multiplies by a power of ten in steps that a double can hold; nothing on overflow. -/
def scale (x : Float) (e : Int) : Option Float :=
  if e.natAbs ≤ 308 then
    if 0 ≤ e then
      let y := x * powerOfTen e.natAbs
      if Binary64.isFinite y then some y else none
    else some (x / powerOfTen e.natAbs)
  else if x == 0.0 then some x
  else if 0 ≤ e then none
  else scale (x / powerOfTen 308) (e + 308)
termination_by e.natAbs
decreasing_by omega

/-- The signed exponent. -/
def exponentValue (t : NumberText) : Int :=
  match t.exponent with
  | none => 0
  | some (minus, ds) =>
    let n : Int := Text.natOfDigits ds
    if minus then -n else n

/-- The double of a number text: as many leading digits as fit 64 bits, scaled by a power of ten;
nothing when it is too large. -/
def toFloat? (t : NumberText) : Option Float :=
  let (wholeSig, _, wholeLeft) := takeDigits 0 0 t.whole
  let (sig, taken, _) := takeDigits wholeSig 0 (t.fraction.getD [])
  let e := (wholeLeft.length : Int) - taken + t.exponentValue
  (scale (Float.ofNat sig) e).map fun x => if t.negative then -x else x

/-- The number of a number text: an integer when it has neither point nor exponent and fits, and
otherwise a double; a negative zero is a double. -/
def toNumber? (t : NumberText) : Option Number :=
  let n := Text.natOfDigits t.whole
  if t.fraction.isSome || t.exponent.isSome then t.toFloat?.map Number.float
  else if t.negative then
    if n = 0 then some (.float (-0.0))
    else if n ≤ pow2 63 then some (.int (-(n : Int)))
    else t.toFloat?.map Number.float
  else if n < UInt64.size then some (.int n)
  else t.toFloat?.map Number.float

end NumberText

end SeriesQuery
