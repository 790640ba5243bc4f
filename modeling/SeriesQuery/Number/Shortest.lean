import SeriesQuery.Number.Binary64

/-!
# The shortest decimal that reads back

Among the decimals that round to a given double, `Shortest.digits` takes one with the fewest digits
and, of those, the one nearest to the double. `Shortest.text` writes it: positional notation while
the exponent of the leading digit is at least -5 and below 16, and otherwise one digit before the
point and a signed exponent.
-/

namespace SeriesQuery.Shortest

/-- The number of decimal digits of `n`. -/
def digitCount (n : Nat) : Nat := (Nat.toDigits 10 n).length

/-- The least `k ≥ count` with `den ≤ num * 10 ^ k`, looked for among `fuel` candidates. -/
def leadingZeros (num den : Nat) : (fuel count : Nat) → Nat
  | 0, count => count
  | fuel + 1, count =>
    if den ≤ num then count else leadingZeros (num * 10) den fuel (count + 1)

/-- The exponent of the leading decimal digit of `num / den`, for a positive quotient. -/
def leadingExponent (num den : Nat) : Int :=
  if den ≤ num then (digitCount (num / den) : Int) - 1
  else -(leadingZeros num den 400 0 : Int)

/-- The reals that round to one double, all over one denominator. -/
structure Interval where
  /-- Lower end. -/
  low : Nat
  /-- The double itself. -/
  value : Nat
  /-- Upper end. -/
  high : Nat
  /-- Common denominator. -/
  den : Nat
  /-- Whether the ends belong to the interval. -/
  closed : Bool

/-- The interval of `m * 2 ^ e`: half a step down and up, a quarter step down below a power of two,
and the ends belong to it when `m` is even. -/
def Interval.ofDouble (m : Nat) (e : Int) : Interval :=
  let scale := pow2 e.toNat
  let below := if m = pow2 52 ∧ -1074 < e then 1 else 2
  { low := (4 * m - below) * scale
    value := 4 * m * scale
    high := (4 * m + 2) * scale
    den := 4 * pow2 (-e).toNat
    closed := m % 2 = 0 }

/-- Whether `num / den` lies in the interval, with its own denominator left out. -/
def Interval.holds (i : Interval) (num scale : Nat) : Bool :=
  if i.closed then i.low * scale ≤ num && num ≤ i.high * scale
  else i.low * scale < num && num < i.high * scale

/-- The decimal `c * 10 ^ p` of the interval that is nearest to its value, if there is one. -/
def Interval.onGrid? (i : Interval) (p : Int) : Option Nat :=
  let scale := pow10 (-p).toNat
  let step := i.den * pow10 p.toNat
  let target := i.value * scale
  let c := target / step
  let lower := i.holds (c * step) scale
  let upper := i.holds ((c + 1) * step) scale
  let down := target - c * step
  let up := (c + 1) * step - target
  if lower && (!upper || down < up || (down = up && c % 2 = 0)) then some c
  else if upper then some (c + 1)
  else none

/-- The first grid from `p` downwards that has a decimal of the interval. -/
def Interval.search (i : Interval) : (fuel : Nat) → (p : Int) → Nat × Int
  | 0, p => ((i.onGrid? p).getD 0, p)
  | fuel + 1, p =>
    match i.onGrid? p with
    | some c => (c, p)
    | none => search i fuel (p - 1)

/-- Coefficient and exponent of the shortest decimal of the positive double `m * 2 ^ e`. -/
def digits (m : Nat) (e : Int) : Nat × Int :=
  let i := Interval.ofDouble m e
  i.search 17 (leadingExponent i.value i.den)

/-- Where positional notation ends on either side. -/
structure Layout where
  /-- Least exponent of the leading digit that is written positionally. -/
  least : Int
  /-- First exponent of the leading digit that is not. -/
  limit : Int

/-- Numbers are positional from 0.00001 up to, not including, 10 ^ 16. -/
def layout : Layout := ⟨-5, 16⟩

/-- The digits with the point after the one of exponent zero, and at least one on either side. -/
def positional (ds : List Char) (exponent : Int) : List Char :=
  if exponent < 0 then
    '0' :: '.' :: (List.replicate (-exponent - 1).toNat '0' ++ ds)
  else
    let whole := exponent.toNat + 1
    if ds.length ≤ whole then ds ++ List.replicate (whole - ds.length) '0' ++ ['.', '0']
    else ds.take whole ++ '.' :: ds.drop whole

/-- The digits with the point after the first, and the exponent with its sign. -/
def scientific (ds : List Char) (exponent : Int) : List Char :=
  let mantissa := match ds with
    | d :: (more@(_ :: _)) => d :: '.' :: more
    | _ => ds
  let sign := if exponent < 0 then '-' else '+'
  mantissa ++ 'e' :: sign :: (toString exponent.natAbs).toList

/-- The text of a positive double. -/
def unsigned (m : Nat) (e : Int) : List Char :=
  let (c, p) := digits m e
  let all := Nat.toDigits 10 c
  let kept := (all.reverse.dropWhile (· == '0')).reverse
  let exponent := p + (all.length : Int) - 1
  if layout.least ≤ exponent ∧ exponent < layout.limit then positional kept exponent
  else scientific kept exponent

/-- The text of a double: the shortest decimal that reads back, with `-0.0` kept apart from `0.0`.
A NaN or an infinity has no text in the data format and is written `null`. -/
def text (x : Float) : String :=
  match Binary64.parts? x with
  | none => "null"
  | some (z, e) =>
    let sign := if x.toBits < 0x8000000000000000 then [] else ['-']
    String.ofList (sign ++ if z = 0 then ['0', '.', '0'] else unsigned z.natAbs e)

end SeriesQuery.Shortest
