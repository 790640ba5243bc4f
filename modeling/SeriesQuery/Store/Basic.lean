import SeriesQuery.Query.Plan

/-!
# Document stores

What queries need of a database. A store is a record of operations over a state of any kind, and an
operation that fails may have changed the state before it did.
-/

namespace SeriesQuery

/-- A computation over a state that may fail. -/
abbrev Effect (σ ε α : Type) := ExceptT ε (StateM σ) α

namespace Effect

variable {σ ε ε' α : Type}

/-- The computation with its error mapped. -/
def mapError (f : ε → ε') (m : Effect σ ε α) : Effect σ ε' α := fun s =>
  match m s with
  | (.ok a, s) => (.ok a, s)
  | (.error e, s) => (.error (f e), s)

/-- A result without effect. -/
def ofExcept (r : Except ε α) : Effect σ ε α := fun s => (r, s)

end Effect

/-- The operations of a store over states `σ`. -/
structure DocumentStore (σ : Type) where
  /-- Name of the kind of store. -/
  name : String
  /-- Asks whether the store answers at all. -/
  ping : Effect σ StoreError Unit
  /-- Asks whether there is a collection. -/
  hasCollection : String → Effect σ StoreError Bool
  /-- Runs a plan and gives its rows, each an array of two values. -/
  execute : Plan → Effect σ StoreError (List Json)
  /-- Runs a text of the query language without variables. -/
  runText : String → Effect σ StoreError (List Json)

end SeriesQuery
