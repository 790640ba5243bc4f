import SeriesQuery.Product
import SeriesQuery.Json
import SeriesQuery.Text.Split

/-!
# Axes

Three axes of up to three variables each span the targets. The variables of one axis run in step,
the axes against each other: an axis is as long as its longest list and never empty, and a list that
ends early goes on with empty texts.
-/

namespace SeriesQuery

/-- An axis. -/
inductive Axis where
  | x | y | z
  deriving DecidableEq

namespace Axis

/-- The axes, outermost first. -/
def all : List Axis := [x, y, z]

/-- The letter of an axis. -/
def letter : Axis → Char
  | x => 'x'
  | y => 'y'
  | z => 'z'

/-- The axis with a letter. -/
def ofLetter? (c : Char) : Option Axis := all.find? fun a => a.letter == c

end Axis

/-- A place for a variable on an axis. -/
inductive Slot where
  | first | second | third
  deriving DecidableEq

namespace Slot

/-- The places, in order. -/
def all : List Slot := [first, second, third]

/-- Position of a place, from zero. -/
def index : Slot → Nat
  | first => 0
  | second => 1
  | third => 2

/-- The place with a number, from one. -/
def ofNumber? (n : Nat) : Option Slot := all.find? fun s => s.index + 1 == n

end Slot

/-- The name of the variable at a place of an axis, such as `y2`. -/
def variableName (axis : Axis) (slot : Slot) : String :=
  String.ofList (axis.letter :: (toString (slot.index + 1)).toList)

/-- The items of a variable: a missing or blank setting is one empty item. -/
def parseVariable (setting : Option String) : List String :=
  match setting with
  | some s => if Text.trim s = "" then [""] else Text.items s
  | none => [""]

/-- The lists of the variables of one axis. -/
structure AxisLists where
  /-- The lists, in order of their places. -/
  lists : List (List String)

namespace AxisLists

/-- The lists that the settings of an axis stand for. -/
def ofSettings (settings : Slot → Option String) : AxisLists :=
  ⟨Slot.all.map fun slot => parseVariable (settings slot)⟩

/-- The length of the longest list, and at least one. -/
def length (a : AxisLists) : Nat := (a.lists.map List.length).foldl Nat.max 1

/-- The values at a position, one for each place; empty where a list has ended. -/
def row (a : AxisLists) (i : Nat) (slot : Slot) : String :=
  ((a.lists[slot.index]?).bind (·[i]?)).getD ""

end AxisLists

/-- One value for every variable of every axis. -/
structure AxisPoint where
  /-- The value at a place of an axis. -/
  value : Axis → Slot → String

namespace AxisPoint

/-- Adds all variables to some bindings. -/
def bind (p : AxisPoint) (bindings : Fields) : Fields :=
  let put (axis : Axis) (b : Fields) (slot : Slot) : Fields :=
    Dict.insert b (variableName axis slot) (.str (p.value axis slot))
  Axis.all.foldl (fun b axis => Slot.all.foldl (put axis) b) bindings

end AxisPoint

/-- The lists of all three axes. -/
structure AxisSpace where
  /-- The lists of an axis. -/
  axis : Axis → AxisLists

namespace AxisSpace

/-- The positions along each axis. -/
def positions (s : AxisSpace) : Product Nat :=
  ⟨Axis.all.map fun axis => List.range (s.axis axis).length⟩

/-- The number of points as a word. -/
def size (s : AxisSpace) : Except Overflow Nat := s.positions.size

/-- The point at a position on each axis. -/
def pointAt (s : AxisSpace) (positions : List Nat) : AxisPoint where
  value axis slot :=
    let position := match axis with
      | .x => positions[0]?
      | .y => positions[1]?
      | .z => positions[2]?
    (s.axis axis).row (position.getD 0) slot

/-- All points, the first axis outermost. -/
def points (s : AxisSpace) : Except Overflow (List AxisPoint) :=
  s.positions.toList.map fun choices => choices.map s.pointAt

end AxisSpace

end SeriesQuery
