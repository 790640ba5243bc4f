import SeriesQuery.Catalog.Axis
import SeriesQuery.Json.Decode

/-!
# Settings of a datasource

What targets there are and where their points come from, as it is configured: texts that are not
read as templates yet. `Datasource.decode` takes them from a record, and every setting has a
default.
-/

namespace SeriesQuery

/-- The settings of a datasource. -/
structure Datasource where
  /-- Templates of target names, between commas. -/
  target : String
  /-- Template of the collection that a target reads. -/
  collection : String
  /-- Names of aggregations, between commas. -/
  aggregation : Option String
  /-- The list at a place of an axis. -/
  axisSetting : Axis → Slot → Option String
  /-- Template of the filter. -/
  filter : Option String
  /-- Template of the attribute with the time of a document. -/
  dateField : Option String
  /-- Template of an expression for the time of a document. -/
  dateExpression : Option String
  /-- Template of the heading of times. -/
  dateName : Option String
  /-- Template of the attribute with the value of a document. -/
  valueField : Option String
  /-- Template of an expression for the value of a document. -/
  valueExpression : Option String
  /-- Template of the heading of values. -/
  valueName : Option String
  /-- Template of the name that is shown. -/
  displayName : Option String
  /-- Names of the variables of which each value makes a query of its own. -/
  multiValued : Option String
  /-- Whether responses without rows are left out. -/
  hideEmpty : Bool
  /-- Whether responses carry the query that was run. -/
  logQuery : Bool
  /-- Queries that answer a search. -/
  searchQueries : Dict String
  /-- Further bindings of a target, by its name. -/
  targetData : Dict Fields

namespace Datasource

/-- The settings that hold where nothing is configured. -/
def default : Datasource where
  target := ""
  collection := ""
  aggregation := none
  axisSetting _ _ := none
  filter := none
  dateField := none
  dateExpression := none
  dateName := none
  valueField := none
  valueExpression := none
  valueName := none
  displayName := none
  multiValued := none
  hideEmpty := false
  logQuery := false
  searchQueries := []
  targetData := []

/-- The name of the setting for a place of an axis. -/
def axisKey (axis : Axis) (slot : Slot) : String := variableName axis slot ++ "_variable"

/-- Settings with one place of an axis changed. -/
def setAxis (axis : Axis) (slot : Slot) (d : Datasource) (setting : Option String) : Datasource :=
  { d with axisSetting := fun a s => if a = axis ∧ s = slot then setting else d.axisSetting a s }

/-- A setting that is a text or missing. -/
def textField (name : String) (put : Datasource → Option String → Datasource) :
    Decode.Field Datasource :=
  Decode.field .defaulted name (Decode.orNull Decode.text) put

/-- The settings by their names, in order. -/
def fields : List (Decode.Field Datasource) :=
  [Decode.field .defaulted "target" Decode.text fun d v => { d with target := v },
    Decode.field .defaulted "collection" Decode.text fun d v => { d with collection := v },
    textField "aggregation" fun d v => { d with aggregation := v }] ++
  (Axis.all.flatMap fun axis =>
    Slot.all.map fun slot => textField (axisKey axis slot) (setAxis axis slot)) ++
  [textField "filterExpression" fun d v => { d with filter := v },
    textField "dateField" fun d v => { d with dateField := v },
    textField "dateExpression" fun d v => { d with dateExpression := v },
    textField "dateName" fun d v => { d with dateName := v },
    textField "valueField" fun d v => { d with valueField := v },
    textField "valueExpression" fun d v => { d with valueExpression := v },
    textField "valueName" fun d v => { d with valueName := v },
    textField "alias" fun d v => { d with displayName := v },
    textField "multiValueTemplateVariables" fun d v => { d with multiValued := v },
    Decode.field .defaulted "hideEmpty" Decode.bool fun d v => { d with hideEmpty := v },
    Decode.field .defaulted "logQuery" Decode.bool fun d v => { d with logQuery := v },
    Decode.field .defaulted "templateVariables" (Decode.dict Decode.text)
      fun d v => { d with searchQueries := v },
    Decode.field .defaulted "targetData" (Decode.dict (Decode.dict Decode.value))
      fun d v => { d with targetData := v }]

/-- Decodes settings. -/
def decode : Decoder Datasource := Decode.record default fields

end Datasource

end SeriesQuery
