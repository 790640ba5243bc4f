/-!
# Powers of two and of ten

The scales of doubles and of decimals.
-/

namespace SeriesQuery

/-- Two to the power `n`. -/
abbrev pow2 (n : Nat) : Nat := Nat.pow 2 n

/-- Ten to the power `n`. -/
abbrev pow10 (n : Nat) : Nat := Nat.pow 10 n

end SeriesQuery
