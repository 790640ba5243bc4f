import SeriesQuery.Catalog.Definition
import SeriesQuery.Query.Error

/-!
# Query plans

A plan is a target made ready for one request: `compile` renders its templates against the layered
bindings of the request. `Plan.toQuery` writes it as a text of the query language of the database,
with its values as bind variables.
-/

namespace SeriesQuery

/-- The shape of the rows of an answer. -/
inductive Shape where
  /-- The value first, then the time. -/
  | series
  /-- The time first, then the value. -/
  | table
  deriving DecidableEq

/-- A text of the query language and its bind variables. -/
structure BoundQuery where
  /-- The text. -/
  text : String
  /-- The values of its variables. -/
  bindVars : Fields

/-- A text as a constant of the query language, with quotation marks and backslashes escaped. -/
def quoteConstant (s : String) : String :=
  String.ofList ('"' :: (s.toList.flatMap fun c =>
    if c = '"' ∨ c = '\\' then ['\\', c] else [c]) ++ ['"'])

namespace Source

/-- The source as an expression over a document. -/
def toExpression : Source String → String
  | field name => "doc[" ++ quoteConstant name ++ "]"
  | expression text => text

/-- The statement that binds a variable to the source. -/
def snippet (s : Source String) (variableName : String) : String :=
  "LET " ++ variableName ++ " = " ++ s.toExpression

end Source

/-- A target made ready for one request. -/
structure Plan where
  /-- Name of the target. -/
  target : String
  /-- The collection that is read. -/
  collection : String
  /-- The filter, if there is one. -/
  filter : Option String
  /-- Where times come from. -/
  date : Source String
  /-- Where values come from. -/
  value : Source String
  /-- What is computed for each bucket. -/
  aggregation : Aggregation
  /-- Width of a bucket in milliseconds. -/
  interval : Int64
  /-- The range that times have to lie in. -/
  range : TimeRange
  /-- The shape of the rows. -/
  shape : Shape
  /-- Heading of times. -/
  dateName : String
  /-- Heading of values. -/
  valueName : String
  /-- The configured name that is shown, if there is one. -/
  displayName : Option String

namespace Plan

/-- Whether rows are grouped into buckets. -/
def isGrouped (p : Plan) : Bool := p.shape == .series && p.aggregation.isGrouping

/-- The statement for times. -/
def dateSnippet (p : Plan) : String := p.date.snippet "d"

/-- The statement for values. -/
def valueSnippet (p : Plan) : String := p.value.snippet "v"

/-- The statement for the filter; empty if there is none. -/
def filterSnippet (p : Plan) : String :=
  match p.filter with
  | some f => "FILTER " ++ f
  | none => ""

/-- The statement for the range. -/
def rangeSnippet : String := "FILTER d >= @start AND d < @end"

/-- The lines that every shape and aggregation shares: selection, and the value. -/
def selectionLines (p : Plan) : List String :=
  ["FOR doc IN @@collection", "  " ++ p.dateSnippet, "  " ++ rangeSnippet] ++
    (if p.filter.isSome then ["  " ++ p.filterSnippet] else []) ++ ["  " ++ p.valueSnippet]

/-- The lines that make the rows. -/
def resultLines (p : Plan) : List String :=
  match p.isGrouped, p.aggregation.function? with
  | true, some function =>
    ["  COLLECT date = FLOOR(d / @interval) * @interval",
      "  AGGREGATE value = " ++ function ++ "(v)", "  SORT date", "  RETURN [value, date]"]
  | _, _ =>
    match p.shape with
    | .table => ["  SORT d", "  RETURN [d, v]"]
    | .series => ["  SORT d", "  RETURN [v, d]"]

/-- The bind variables: the width of a bucket only where rows are grouped. -/
def bindVars (p : Plan) : Fields :=
  Dict.ofList
    ([("@collection", .str p.collection), ("start", .int64 p.range.start),
      ("end", .int64 p.range.stop)] ++
      if p.isGrouped then [("interval", .int64 p.interval)] else [])

/-- The plan as a query. -/
def toQuery (p : Plan) : BoundQuery where
  text := Text.joinWith "\n" (p.selectionLines ++ p.resultLines)
  bindVars := p.bindVars

end Plan

/-- The bindings of a target for a request: its view, over it its configured data, over both the
data of the request, and the variables of the dashboard under a name of their own. -/
def layerBindings (d : Definition) (requestData : Option Fields) (dashboard : Fields) : Fields :=
  let configured := Dict.overlay d.view (d.data.getD [])
  Dict.insert (Dict.overlay configured (requestData.getD [])) "grafana" (.obj dashboard)

/-- The rendered source, without blanks at its ends. -/
def renderSource (s : Source Template) (bindings : Fields) : Source String :=
  s.map fun t => Text.trim (t.render bindings)

/-- Makes a target ready for a request. -/
def compile (d : Definition) (bindings : Fields) (range : TimeRange) (interval : Int64)
    (shape : Shape) : Except QueryError Plan :=
  if interval ≤ 0 then .error (.invalidInterval interval)
  else
    match TimeRange.ofBounds? range.start range.stop with
    | none => .error (.invalidRange range.start range.stop)
    | some range =>
      .ok
        { target := d.name
          collection := d.collection
          filter := Text.nonBlank? (d.filter.map (·.render bindings))
          date := renderSource d.date bindings
          value := renderSource d.value bindings
          aggregation := d.aggregation
          interval
          range
          shape
          dateName := d.dateName.render bindings
          valueName := d.valueName.render bindings
          displayName := d.displayName.map (·.render bindings) }

end SeriesQuery
