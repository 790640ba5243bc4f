import SeriesQuery.Word

/-!
# Choices of one element from each of several lists

A `Product` holds the lists. It is walked by an `Odometer`, whose wheels show one position of each
list: the last wheel turns fastest and a full turn carries to the left. Before a walk the number of
choices is computed as a word: a walk over no choices starts at its end, and where the lengths
multiply to no word there is no walk.
-/

namespace SeriesQuery

/-- The lists that elements are chosen from, outermost first. -/
structure Product (α : Type) where
  /-- The lists. -/
  dimensions : List (List α)

/-- A walk over the choices. -/
structure Odometer (α : Type) where
  /-- The lists. -/
  dimensions : List (List α)
  /-- The position that each wheel shows. -/
  wheels : List Nat
  /-- Whether the last choice was shown. -/
  done : Bool

namespace Odometer

variable {α : Type}

/-- The elements that the wheels show; nothing if some wheel is past the end of its list. -/
def current? (o : Odometer α) : Option (List α) :=
  (o.wheels.zip o.dimensions).mapM fun (i, dimension) => dimension[i]?

/-- Turns the last wheel by one, with carries to the left, and says whether the first wheel carried
out. -/
def turn : List Nat → List (List α) → List Nat × Bool
  | i :: wheels, dimension :: dimensions =>
    match turn wheels dimensions with
    | (wheels, true) =>
      if i + 1 < dimension.length then ((i + 1) :: wheels, false) else (0 :: wheels, true)
    | (wheels, false) => (i :: wheels, false)
  | wheels, _ => (wheels, true)

/-- The next choice, if there is one, and the walk after it. -/
def next (o : Odometer α) : Option (List α) × Odometer α :=
  if o.done then (none, o)
  else
    let (wheels, carried) := turn o.wheels o.dimensions
    (o.current?, { o with wheels, done := carried })

/-- The walk after some calls of `next`. -/
def skip : Nat → Odometer α → Odometer α
  | 0, o => o
  | n + 1, o => skip n o.next.2

/-- The choices of at most `fuel` calls of `next`. -/
def collect : (fuel : Nat) → Odometer α → List (List α)
  | 0, _ => []
  | fuel + 1, o =>
    match o.next with
    | (some choice, o) => choice :: collect fuel o
    | (none, _) => []

end Odometer

namespace Product

variable {α : Type}

/-- The number of choices as a word. The lengths are multiplied from the first list on, so those of
the first lists have to fit too, also where a later list is empty. -/
def size (p : Product α) : Except Overflow Nat :=
  p.dimensions.foldlM (fun n dimension => Word.mulLength n dimension.length) 1

/-- Whether there are no choices. -/
def isEmpty (p : Product α) : Except Overflow Bool := p.size.map (· == 0)

/-- The number of choices. -/
def count (p : Product α) : Nat := (p.dimensions.map List.length).foldl (· * ·) 1

/-- A walk from the first choice on. -/
def start (p : Product α) : Except Overflow (Odometer α) :=
  p.isEmpty.map fun done =>
    { dimensions := p.dimensions
      wheels := p.dimensions.map fun _ => 0
      done }

/-- All choices of a walk. -/
def toList (p : Product α) : Except Overflow (List (List α)) :=
  p.start.map fun o => o.collect p.count

end Product

end SeriesQuery
