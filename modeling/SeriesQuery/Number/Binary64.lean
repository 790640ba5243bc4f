import SeriesQuery.Number.Power

/-!
# Doubles as exact numbers

A finite double is an integer times a power of two. `Binary64.parts?` reads that pair from the bits,
and everything that rounds a double to an integer is stated on it, so that floors, ceilings and
casts are integer arithmetic. `Binary64.toInt64` clamps to the signed 64-bit range, and
`Binary64.remainder` keeps the sign of the dividend.
-/

namespace SeriesQuery.Binary64

/-- Mantissa field of the word, without the implicit bit. -/
def fraction (word : Nat) : Nat := word % pow2 52

/-- Exponent field of the word. -/
def exponentField (word : Nat) : Nat := word / pow2 52 % pow2 11

/-- The pair `(z, e)` with `x = z * 2 ^ e`, for a finite double; nothing for a NaN or an infinity.
-/
def parts? (x : Float) : Option (Int × Int) :=
  let word := x.toBits.toNat
  let field := exponentField word
  if field = 2047 then none
  else
    let magnitude := if field = 0 then fraction word else pow2 52 + fraction word
    let exponent : Int := if field = 0 then -1074 else (field : Int) - 1075
    some (if word < pow2 63 then (magnitude : Int) else -(magnitude : Int), exponent)

/-- Whether the double is neither a NaN nor an infinity. -/
def isFinite (x : Float) : Bool := (parts? x).isSome

/-- Rounds `z * 2 ^ e` to an integer: exactly when `0 ≤ e`, and otherwise by `divide z (2 ^ -e)`. -/
def integral (divide : Int → Int → Int) (z e : Int) : Int :=
  if 0 ≤ e then z * pow2 e.toNat else divide z (pow2 (-e).toNat)

/-- Division that rounds a half away from zero, by a positive divisor. -/
def divideHalfAway (z d : Int) : Int :=
  if 0 ≤ z then (2 * z + d) / (2 * d) else -((-(2 * z) + d) / (2 * d))

/-- Division that rounds up, by a positive divisor. -/
def divideUp (z d : Int) : Int := -(-z / d)

/-- The double rounded to an integral double by `divide`; a NaN or an infinity stays what it is. -/
def roundWith (divide : Int → Int → Int) (x : Float) : Float :=
  match parts? x with
  | some (z, e) => if 0 ≤ e then x else Float.ofInt (divide z (pow2 (-e).toNat))
  | none => x

/-- The greatest integral double that is not above `x`. -/
def floor (x : Float) : Float := roundWith (· / ·) x

/-- The least integral double that is not below `x`. -/
def ceil (x : Float) : Float := roundWith divideUp x

/-- The nearest integral double; a half goes away from zero. -/
def round (x : Float) : Float := roundWith divideHalfAway x

/-- Whether the double is a whole number. -/
def isWhole (x : Float) : Bool :=
  match parts? x with
  | some (z, e) => 0 ≤ e || z % pow2 (-e).toNat == 0
  | none => false

/-- The integer nearest to `z` in the signed 64-bit range. -/
def clamp (z : Int) : Int64 :=
  if z < Int64.minValue.toInt then Int64.minValue
  else if Int64.maxValue.toInt < z then Int64.maxValue
  else Int64.ofInt z

/-- The double cut to an integer toward zero and clamped to 64 bits; a NaN becomes zero. -/
def toInt64 (x : Float) : Int64 :=
  match parts? x with
  | some (z, e) => clamp (integral Int.tdiv z e)
  | none =>
    if x < 0 then Int64.minValue
    else if 0 < x then Int64.maxValue
    else 0

/-- The double nearest to a signed 64-bit integer. -/
def ofInt64 (n : Int64) : Float := Float.ofInt n.toInt

/-- The double `2 ^ e`, for `e` from -1074 to 1023. -/
def powerOfTwo (e : Int) : Float :=
  if -1022 ≤ e then Float.ofBits (UInt64.ofNat ((e + 1023).toNat * pow2 52))
  else Float.ofBits (UInt64.ofNat (pow2 (e + 1074).toNat))

/-- What is left of `x` after whole multiples of `y`, with the sign of `x`, and exact. -/
def remainder (x y : Float) : Float :=
  match parts? x, parts? y with
  | some (zx, ex), some (zy, ey) =>
    if zy = 0 then 0.0 / 0.0
    else
      let e := min ex ey
      let left := zx * pow2 (ex - e).toNat
      let right := zy * pow2 (ey - e).toNat
      Float.ofInt (Int.tmod left right) * powerOfTwo e
  | some _, none => if x != x || y != y then 0.0 / 0.0 else x
  | none, _ => 0.0 / 0.0

/-- The smaller of two doubles. -/
def least (x y : Float) : Float := if y < x then y else x

/-- The larger of two doubles. -/
def greatest (x y : Float) : Float := if x < y then y else x

end SeriesQuery.Binary64
