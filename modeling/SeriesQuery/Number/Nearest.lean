import SeriesQuery.Number.Power

/-!
# The double nearest to a fraction

`Nearest.ofRatio num den` is the double nearest to `num / den`: the fraction is brought onto the
grid of doubles of its size, an exact tie goes to the even neighbour, and what is too large becomes
an infinity. `Nearest.ofDecimal c e` is the double nearest to `c * 10 ^ e`.
-/

namespace SeriesQuery.Nearest

/-- The integer nearest to `num / den`, for a positive `den`; a tie goes to the even neighbour. -/
def divideEven (num den : Nat) : Nat :=
  let q := num / den
  let r := num % den
  if 2 * r < den then q
  else if den < 2 * r then q + 1
  else if q % 2 = 0 then q
  else q + 1

/-- `num / (den * 2 ^ e)` as a fraction of naturals. -/
def scaled (num den : Nat) (e : Int) : Nat × Nat :=
  (num * pow2 (-e).toNat, den * pow2 e.toNat)

/-- The exponent of the grid for `num / den`: the quotient by its power of two has 53 bits, or fewer
on the finest grid that doubles have. -/
def gridExponent (num den : Nat) : Int :=
  let coarse := (num.log2 : Int) - den.log2 - 53
  let (n, d) := scaled num den coarse
  max (-1074) (if pow2 53 ≤ n / d then coarse + 1 else coarse)

/-- The word of the double `q * 2 ^ e`, for `q` of at most 53 bits, or `q = 2 ^ 53`; an infinity
when there is no such double. -/
def word (q : Nat) (e : Int) : Nat :=
  if q < pow2 52 then q else min ((e + 1074).toNat * pow2 52 + q) (2047 * pow2 52)

/-- The double nearest to `num / den`, for a positive `den`. -/
def ofRatio (num den : Nat) : Float :=
  if num = 0 then 0.0
  else
    let e := gridExponent num den
    let (n, d) := scaled num den e
    Float.ofBits (UInt64.ofNat (word (divideEven n d) e))

/-- The double nearest to `c * 10 ^ e`. An exponent so large or so small that the result cannot
depend on it is not computed with. -/
def ofDecimal (c : Nat) (e : Int) : Float :=
  let magnitude := e + (Nat.toDigits 10 c).length
  if c = 0 ∨ magnitude < -330 then 0.0
  else if 320 < magnitude then 1.0 / 0.0
  else ofRatio (c * pow10 e.toNat) (pow10 (-e).toNat)

end SeriesQuery.Nearest
