import SeriesQuery.Query.Request

/-!
# What a query is answered with
-/

namespace SeriesQuery

namespace BoundQuery

/-- The value of a query. -/
def toJson (q : BoundQuery) : Json :=
  .object [("query", .str q.text), ("bindVars", .obj q.bindVars)]

end BoundQuery

/-- What a plan was made from. -/
structure PlanOrigin where
  /-- The template of the configured name that is shown. -/
  displayName : Option String
  /-- The bindings of the target. -/
  view : Fields
  /-- The layered bindings. -/
  bindings : Fields

/-- The value of what a plan was made from; a missing name is left out. -/
def PlanOrigin.toJson (o : PlanOrigin) : Json :=
  .object
    ((match o.displayName with
      | some s => [("alias", .str s)]
      | none => []) ++
    [("view", .obj o.view), ("vars", .obj o.bindings)])

/-- A plan with the name that is shown for it. -/
structure PlannedTarget where
  displayName : String
  plan : Plan
  origin : PlanOrigin

/-- The rows of one plan. -/
structure TargetResponse where
  /-- The name that is shown. -/
  target : String
  shape : Shape
  /-- The headings of a table. -/
  columns : List String
  rows : List Json
  /-- The query that was run and what it was made from, if that is wanted. -/
  log : Option (BoundQuery × PlanOrigin)

namespace TargetResponse

/-- The rows of a plan. -/
def ofRows (target : String) (p : Plan) (rows : List Json) : TargetResponse where
  target
  shape := p.shape
  columns := [p.dateName, p.valueName]
  rows
  log := none

/-- The entries for rows and headings. -/
def rowFields (r : TargetResponse) : List (String × Json) :=
  match r.shape with
  | .series => [("datapoints", .arr r.rows)]
  | .table =>
    [("columns", .arr (r.columns.map fun c => .object [("text", .str c)])), ("rows", .arr r.rows)]

/-- The entries for the query. -/
def logFields (r : TargetResponse) : List (String × Json) :=
  match r.log with
  | some (q, o) => [("query", q.toJson), ("definition", o.toJson)]
  | none => []

/-- The value of a response. -/
def toJson (r : TargetResponse) : Json :=
  .object ([("type", .str r.shape.name), ("target", .str r.target)] ++ r.rowFields ++ r.logFields)

end TargetResponse

end SeriesQuery
