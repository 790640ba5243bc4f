import SeriesQuery.Store.Error
import SeriesQuery.Template
import SeriesQuery.Time.Range

/-!
# Errors of queries
-/

namespace SeriesQuery

/-- Why a query is not answered. -/
inductive QueryError where
  /-- There is no such target. -/
  | unknownTarget (name : String)
  /-- The range does not start before it ends. -/
  | invalidRange (start stop : Int64)
  /-- The width of buckets is not positive. -/
  | invalidInterval (width : Int64)
  /-- A text of a request is no template. -/
  | template (e : TemplateError)
  /-- The store did not answer. -/
  | store (e : StoreError)
  /-- The query was broken off. -/
  | overflow (o : Overflow)
  deriving DecidableEq

/-- The wording of the error. -/
def QueryError.message : QueryError → String
  | unknownTarget name => "Unknown target: " ++ name
  | invalidRange start stop =>
    "Invalid time range: start " ++ instantText start ++ " must be before end " ++ instantText stop
  | invalidInterval width =>
    "Invalid interval: " ++ toString width.toInt ++ "ms is not a positive bucket width"
  | template e => "Template error: " ++ e.message
  | store e => "Store error: " ++ e.message
  | overflow o => o.message

end SeriesQuery
