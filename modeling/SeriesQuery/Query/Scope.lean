import SeriesQuery.Json
import SeriesQuery.Product
import SeriesQuery.Text.Entity
import SeriesQuery.Text.Split

/-!
# Variables of the dashboard

A request brings variables. Those that are declared to have several values multiply the request: one
combination for each choice of a value of each of them; all others are bound once. A variable whose
name starts with an underscore is ignored. Values come with character references, which are
resolved.
-/

namespace SeriesQuery

/-- A variable as a request has it. -/
structure ScopedVariable where
  /-- What is shown for it. -/
  text : Option Json
  /-- Its value. -/
  value : Json

/-- The variables of a request. -/
abbrev ScopedVars := Dict ScopedVariable

/-- The variables of a request, split up. -/
structure Scope where
  /-- The variables that are bound once. -/
  single : Fields
  /-- One set of bindings for each choice of values of the others. -/
  combinations : List Fields

namespace Scope

mutual
/-- A value with references resolved in its texts; null becomes the empty text. -/
def decode : Json → Json
  | .str s => .str (Text.decodeEntities s)
  | .arr items => .arr (decodeItems items)
  | .null => .str ""
  | other => other

/-- Items with references resolved. -/
def decodeItems : List Json → List Json
  | [] => []
  | v :: vs => decode v :: decodeItems vs
end

/-- The values of a variable that may have several, and at least one. -/
def elements : Json → List Json
  | .arr [] => [.str ""]
  | .arr items => decodeItems items
  | other => [decode other]

/-- The names of a setting with commas. -/
def namesOf (setting : Option String) : List String :=
  (Text.items (setting.getD "")).filter (· ≠ "")

/-- Whether the name of a variable is one that is ignored. -/
def isHidden (name : String) : Bool := name.toList.head? == some '_'

/-- The declared variables that a request has, with their values. -/
def present (declared : List String) (vars : ScopedVars) : List (String × List Json) :=
  (declared.filter fun name => !isHidden name).filterMap fun name =>
    (Dict.get? vars name).map fun v => (name, elements v.value)

/-- The variables that are not declared, with their values. -/
def others (declared : List String) (vars : ScopedVars) : Fields :=
  (vars.filter fun (name, _) => !isHidden name && !declared.contains name).map
    fun (name, v) => (name, decode v.value)

/-- The variables of a request, split up by the names that are declared to have several values.
There have to be no more combinations than a word can count. -/
def expand (declared : List String) (vars : ScopedVars) : Except Overflow Scope :=
  let choices := present declared vars
  (Product.mk (choices.map Prod.snd)).toList.map fun rows =>
    { single := others declared vars
      combinations := rows.map fun values => Dict.ofList ((choices.map Prod.fst).zip values) }

/-- The bindings of each combination, with the variables that are bound once over them. -/
def namespaces (s : Scope) : List Fields := s.combinations.map fun c => Dict.overlay c s.single

end Scope

end SeriesQuery
