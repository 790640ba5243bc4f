/-!
# Words

Lengths and times are held in words of 64 bits. An operation on words whose exact result is no
word overflows: the program is broken off there, with no result and no error that anyone is answered
with.
-/

namespace SeriesQuery

/-- An operation whose result is no word. The program is broken off by it. -/
inductive Overflow where
  | multiply
  | subtract
  deriving DecidableEq

/-- The integers that a signed word can be. -/
def IsWord (t : Int) : Prop := Int64.minValue.toInt ≤ t ∧ t ≤ Int64.maxValue.toInt

instance (t : Int) : Decidable (IsWord t) := inferInstanceAs (Decidable (_ ∧ _))

namespace Overflow

/-- The wording under which the program is broken off. -/
def message : Overflow → String
  | multiply => "attempt to multiply with overflow"
  | subtract => "attempt to subtract with overflow"

/-- The exact result of an operation as a signed word, or the overflow of the operation. -/
def check (o : Overflow) (t : Int) : Except Overflow Int64 :=
  if IsWord t then .ok (Int64.ofInt t) else .error o

end Overflow

namespace Word

/-- The product of two signed words. -/
def mul (a b : Int64) : Except Overflow Int64 := Overflow.multiply.check (a.toInt * b.toInt)

/-- The difference of two signed words. -/
def sub (a b : Int64) : Except Overflow Int64 := Overflow.subtract.check (a.toInt - b.toInt)

/-- The product of two lengths, which are unsigned words. -/
def mulLength (m n : Nat) : Except Overflow Nat :=
  if m * n < UInt64.size then .ok (m * n) else .error .multiply

end Word

end SeriesQuery
