import SeriesQuery.Catalog.Aggregation
import SeriesQuery.Template

/-!
# Target definitions

What is known of a target before it is asked for: its name and its collection are final, and its
filter, its sources and its headings are templates still, because a request brings further bindings.
-/

namespace SeriesQuery

/-- Where the time or the value of a document comes from. -/
inductive Source (α : Type) where
  /-- An attribute of the document. -/
  | field (name : α)
  /-- An expression over the document. -/
  | expression (text : α)
  deriving DecidableEq

namespace Source

variable {α β : Type}

/-- The name of the attribute or the text of the expression. -/
def content : Source α → α
  | field a => a
  | expression a => a

/-- The source with its content mapped. -/
def map (f : α → β) : Source α → Source β
  | field a => field (f a)
  | expression a => expression (f a)

end Source

/-- A target that can be queried. -/
structure Definition where
  /-- The name that it is asked for by. -/
  name : String
  /-- The collection that it reads. -/
  collection : String
  /-- What is computed for each bucket. -/
  aggregation : Aggregation
  /-- The filter, if there is one. -/
  filter : Option Template
  /-- Where times come from. -/
  date : Source Template
  /-- Where values come from. -/
  value : Source Template
  /-- Heading of times. -/
  dateName : Template
  /-- Heading of values. -/
  valueName : Template
  /-- The name that is shown, if one is configured. -/
  displayName : Option Template
  /-- The bindings that its name was rendered with, and its name. -/
  view : Fields
  /-- Further bindings that are configured for it. -/
  data : Option Fields

end SeriesQuery
