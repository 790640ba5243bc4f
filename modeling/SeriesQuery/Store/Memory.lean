import SeriesQuery.Expr.Eval
import SeriesQuery.Json.Reader
import SeriesQuery.Store.Basic

/-!
# The store in memory

Collections are lists of documents. A plan is run on its parts: every document whose time is a
number in the range and whose filter holds is selected, and the selected ones are grouped into
buckets or sorted by time. Texts of the query language have only the results that were registered
for them.
-/

namespace SeriesQuery

/-- Collections of documents and results of queries. -/
structure MemoryStore where
  /-- The documents of each collection, oldest first. -/
  collections : Dict (List Json)
  /-- The rows of each registered query. -/
  results : Dict (List Json)

namespace MemoryStore

/-- The store without collections. -/
def empty : MemoryStore := ⟨[], []⟩

/-- The store whose collections are the entries of an object. -/
def ofJson : Json → Except DecodeError MemoryStore
  | .obj fields => do
    let collections ← fields.mapM fun (name, v) =>
      match v with
      | .arr docs => .ok (name, docs)
      | _ => .error (.notDocuments name)
    return ⟨collections, []⟩
  | _ => .error .notCollections

/-- The store that a text of the data format describes. -/
def ofText (text : String) : Except DecodeError MemoryStore :=
  match Json.ofText text with
  | .ok v => ofJson v
  | .error e => .error (.notData e)

/-- Adds a collection without documents, if there is none of this name. -/
def create (s : MemoryStore) (name : String) : MemoryStore :=
  if Dict.contains s.collections name then s
  else { s with collections := Dict.insert s.collections name [] }

/-- Adds documents to the end of a collection, and says how many they are. -/
def insertMany (name : String) (docs : List Json) : Effect MemoryStore StoreError Nat := fun s =>
  match Dict.get? s.collections name with
  | some old =>
    (.ok docs.length, { s with collections := Dict.insert s.collections name (old ++ docs) })
  | none => (.error (.unknownCollection name), s)

/-- Adds a document to the end of a collection. -/
def insert (name : String) (doc : Json) : Effect MemoryStore StoreError Unit := do
  let _ ← insertMany name [doc]

/-- The number of documents of a collection. -/
def count? (s : MemoryStore) (name : String) : Option Nat :=
  (Dict.get? s.collections name).map List.length

/-- Registers the rows of a query. -/
def register (s : MemoryStore) (query : String) (rows : List Json) : MemoryStore :=
  { s with results := Dict.insert s.results query rows }

/-- A document that a plan selects, as far as the plan looks at it. -/
structure Selected where
  /-- Its time as a double. -/
  time : Float
  /-- Its time. -/
  date : Json
  /-- Its value. -/
  value : Json

/-- The expressions of a plan. -/
structure PlanExprs where
  date : Expr
  value : Expr
  filter : Option Expr

/-- Reads the expressions of a plan. -/
def PlanExprs.ofPlan (p : Plan) : Except ParseError PlanExprs := do
  let date ← Expr.parse p.date.toExpression
  let value ← Expr.parse p.value.toExpression
  let filter ← p.filter.mapM Expr.parse
  return { date, value, filter }

/-- What a plan takes of a document, if it selects it: the time has to be a number whose whole part
lies in the range. -/
def select? (p : Plan) (e : PlanExprs) (doc : Json) : Option Selected :=
  let scope : Fields := [("doc", doc)]
  match e.date.eval scope with
  | .num n =>
    let time := n.toFloat
    let holds := match e.filter with
      | some f => (f.eval scope).truthy
      | none => true
    if p.range.contains (Binary64.toInt64 (Binary64.floor time)) && holds then
      some ⟨time, .num n, e.value.eval scope⟩
    else none
  | _ => none

/-- The start of the bucket of a time. -/
def bucketStart (interval : Int64) (time : Float) : Int64 :=
  let width := Binary64.ofInt64 interval
  Binary64.toInt64 (Binary64.floor (time / width) * width)

/-- Adds a value to the end of its bucket; buckets stay in order. -/
def addToBucket (start : Int64) (value : Json) :
    List (Int64 × List Json) → List (Int64 × List Json)
  | [] => [(start, [value])]
  | (s, values) :: rest =>
    if start = s then (s, values ++ [value]) :: rest
    else if start < s then (start, [value]) :: (s, values) :: rest
    else (s, values) :: addToBucket start value rest

/-- The values of selected documents by their buckets. -/
def buckets (interval : Int64) (selected : List Selected) : List (Int64 × List Json) :=
  selected.foldl (fun bs d => addToBucket (bucketStart interval d.time) d.value bs) []

/-- Selected documents by time; those of one time stay in order. -/
def byTime (selected : List Selected) : List Selected :=
  selected.mergeSort fun a b => !(b.time < a.time)

/-- The rows of a plan over selected documents. -/
def rows (p : Plan) (selected : List Selected) : List Json :=
  if p.isGrouped then
    (buckets p.interval selected).map fun (start, values) =>
      .arr [p.aggregation.apply values, .ofFloat (Binary64.ofInt64 start)]
  else
    (byTime selected).map fun d =>
      match p.shape with
      | .table => .arr [d.date, d.value]
      | .series => .arr [d.value, d.date]

/-- Runs a plan. -/
def execute (s : MemoryStore) (p : Plan) : Except StoreError (List Json) :=
  match PlanExprs.ofPlan p with
  | .error e => .error (.expression e)
  | .ok e =>
    match Dict.get? s.collections p.collection with
    | none => .error (.unknownCollection p.collection)
    | some docs => .ok (rows p (docs.filterMap (select? p e)))

/-- The rows that were registered for a text without blanks at its ends. -/
def runText (s : MemoryStore) (query : String) : Except StoreError (List Json) :=
  match Dict.get? s.results (Text.trim query) with
  | some rows => .ok rows
  | none => .error (.unsupported query)

/-- The operations of the store, none of which changes it. -/
def operations : DocumentStore MemoryStore where
  name := "memory"
  ping := fun s => (.ok (), s)
  hasCollection name := fun s => (.ok (Dict.contains s.collections name), s)
  execute p := fun s => (s.execute p, s)
  runText query := fun s => (s.runText query, s)

end MemoryStore

end SeriesQuery
