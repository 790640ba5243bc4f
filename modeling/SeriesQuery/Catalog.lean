import SeriesQuery.Catalog.Definition
import SeriesQuery.Catalog.Error
import SeriesQuery.Datasource

/-!
# Catalogs

The targets that some settings stand for: one for every target template, point of the axes and
aggregation, in this order of nesting. `Catalog.expand` reads all templates first and reports the
first setting that is none; then it goes through the points of the axes, if a word can count them,
renders names and collections, and adds one target after the other up to the first name that is
taken. A catalog keeps the position of every name in step with its targets.
-/

namespace SeriesQuery

/-- The templates of some settings. -/
structure CatalogTemplates where
  targets : List Template
  collection : Template
  filter : Option Template
  date : Source Template
  value : Source Template
  dateName : Template
  valueName : Template
  displayName : Option Template
  deriving DecidableEq

namespace CatalogTemplates

/-- Reads the template of a setting. -/
def read (setting source : String) : Except CatalogError Template :=
  (Template.parse source).mapError (CatalogError.template setting)

/-- Reads the template of a setting that may be missing or blank. -/
def read? (setting : String) (source : Option String) : Except CatalogError (Option Template) :=
  match Text.nonBlank? source with
  | some s => (read setting s).map some
  | none => .ok none

/-- The settings for a source: names and texts for an attribute and for an expression. -/
structure SourceSettings where
  fieldName : String
  field : Option String
  expressionName : String
  expression : Option String
  /-- The attribute where neither is configured. -/
  fallback : String

/-- Reads a source: an expression goes before an attribute. -/
def readSource (s : SourceSettings) : Except CatalogError (Source Template) :=
  match Text.nonBlank? s.expression with
  | some e => (read s.expressionName e).map Source.expression
  | none => (read s.fieldName ((Text.nonBlank? s.field).getD s.fallback)).map Source.field

/-- Reads a heading: where none is configured, the attribute of the source, or a word for an
expression. -/
def readHeading (setting : String) (heading : Option String) (source : Source Template)
    (word : String) : Except CatalogError Template :=
  match Text.nonBlank? heading, source with
  | some s, _ => read setting s
  | none, .field t => .ok t
  | none, .expression _ => read setting word

/-- Reads all templates of some settings. -/
def ofDatasource (d : Datasource) : Except CatalogError CatalogTemplates := do
  let targets ← ((Text.items d.target).filter (· ≠ "")).mapM (read "target")
  if targets.isEmpty then throw .noTargets
  let collection ← match Text.nonBlank? (some d.collection) with
    | some s => read "collection" s
    | none => throw .noCollection
  let date ← readSource
    { fieldName := "dateField", field := d.dateField
      expressionName := "dateExpression", expression := d.dateExpression
      fallback := "time" }
  let value ← readSource
    { fieldName := "valueField", field := d.valueField
      expressionName := "valueExpression", expression := d.valueExpression
      fallback := "value" }
  let dateName ← readHeading "dateName" d.dateName date "date"
  let valueName ← readHeading "valueName" d.valueName value "value"
  let filter ← read? "filterExpression" d.filter
  let displayName ← read? "alias" d.displayName
  return { targets, collection, filter, date, value, dateName, valueName, displayName }

end CatalogTemplates

/-- The targets of a datasource, and where each name stands among them. -/
structure Catalog where
  /-- The targets, in order. -/
  targets : Array Definition
  /-- The position of the target with a name. -/
  index : Dict Nat
  /-- A name has the position of its target, and no other name has one. -/
  inStep : ∀ name i, Dict.get? index name = some i ↔
    targets[i]?.map Definition.name = some name

namespace Catalog

/-- The catalog without targets. -/
def empty : Catalog where
  targets := #[]
  index := []
  inStep := by simp [Dict.get?]

/-- The catalog with one more target, whose name is new. -/
def push (c : Catalog) (d : Definition) (h : Dict.get? c.index d.name = none) : Catalog where
  targets := c.targets.push d
  index := Dict.insert c.index d.name c.targets.size
  inStep := by
    intro name i
    -- no target has the new name yet, and the others stay where they are
    have hnew : c.targets[i]?.map Definition.name ≠ some d.name := by
      rw [Ne, ← c.inStep, h]
      simp
    rw [Dict.get?_insert, Array.getElem?_push]
    by_cases hname : d.name = name <;> by_cases hi : i = c.targets.size
    · simp [hname, hi]
    · subst hname
      simpa [hi, Ne.symm hi] using hnew
    · simp [hname, hi, c.inStep]
    · simp [hname, hi, c.inStep]

/-- Adds a target, unless its name is taken. -/
def insert (c : Catalog) (d : Definition) : Except CatalogError Catalog :=
  match h : Dict.get? c.index d.name with
  | some _ => .error (.duplicateTarget d.name)
  | none => .ok (c.push d h)

/-- The axes of some settings. -/
def space (d : Datasource) : AxisSpace := ⟨fun axis => AxisLists.ofSettings (d.axisSetting axis)⟩

/-- The target of a template, a point and an aggregation. -/
def define (d : Datasource) (templates : CatalogTemplates) (target : Template) (point : AxisPoint)
    (aggregation : Aggregation) : Definition :=
  let bindings := Dict.insert (point.bind []) "aggregation" (.str aggregation.name)
  let name := target.render bindings
  let view := Dict.insert (Dict.insert bindings "target" (.str name)) "rawTarget"
    (.str target.source)
  { name
    collection := templates.collection.render view
    aggregation
    filter := templates.filter
    date := templates.date
    value := templates.value
    dateName := templates.dateName
    valueName := templates.valueName
    displayName := templates.displayName
    view
    data := Dict.get? d.targetData name }

/-- The targets that some settings stand for, whether or not their names differ. -/
def candidates (d : Datasource) (templates : CatalogTemplates) (points : List AxisPoint)
    (aggregations : List Aggregation) : List Definition :=
  templates.targets.flatMap fun target =>
    points.flatMap fun point =>
      aggregations.map fun aggregation => define d templates target point aggregation

/-- The catalog of some settings. -/
def expand (d : Datasource) : Except CatalogError Catalog := do
  let templates ← CatalogTemplates.ofDatasource d
  let aggregations ← (Aggregation.resolve d.aggregation).mapError CatalogError.unknownAggregation
  let points ← (space d).points.mapError CatalogError.overflow
  (candidates d templates points aggregations).foldlM insert empty

/-- The targets, in order. -/
def definitions (c : Catalog) : List Definition := c.targets.toList

/-- The target with a name. -/
def get? (c : Catalog) (name : String) : Option Definition :=
  (Dict.get? c.index name).bind fun i => c.targets[i]?

/-- Whether there is a target with a name. -/
def contains (c : Catalog) (name : String) : Bool := Dict.contains c.index name

/-- The targets are looked up in the index and found at their positions. -/
theorem contains_eq (c : Catalog) (name : String) : c.contains name = (c.get? name).isSome := by
  rw [contains, Dict.contains, get?]
  cases h : Dict.get? c.index name with
  | none => rfl
  | some i =>
      obtain ⟨d, hd, _⟩ := Option.map_eq_some_iff.1 ((c.inStep name i).1 h)
      simp [hd]

/-- The names of the targets, in order. -/
def names (c : Catalog) : List String := c.definitions.map Definition.name

/-- The number of targets. -/
def size (c : Catalog) : Nat := c.targets.size

/-- The collections that targets read, each once and by code point. -/
def collections (c : Catalog) : List String :=
  Dict.keys (Dict.ofList (c.definitions.map fun d => (d.collection, ())))

end Catalog

end SeriesQuery
