import SeriesQuery.Store.Error
import SeriesQuery.Template
import SeriesQuery.Word

/-!
# Errors of catalogs
-/

namespace SeriesQuery

/-- Why there is no catalog for some settings. -/
inductive CatalogError where
  /-- No template for a target name. -/
  | noTargets
  /-- No collection. -/
  | noCollection
  /-- A name that is no aggregation. -/
  | unknownAggregation (name : String)
  /-- A collection that the store does not have. -/
  | unknownCollection (name : String)
  /-- Two targets with one name. -/
  | duplicateTarget (name : String)
  /-- A setting that is no template. -/
  | template (setting : String) (e : TemplateError)
  /-- The store could not be asked for a collection. -/
  | store (e : StoreError)
  /-- The catalog was broken off. -/
  | overflow (o : Overflow)
  deriving DecidableEq

/-- The wording of the error. -/
def CatalogError.message : CatalogError → String
  | noTargets => "Invalid service configuration. No target templates configured"
  | noCollection => "Invalid service configuration. No collection configured"
  | unknownAggregation name => "Invalid service configuration. Unknown aggregation: " ++ name
  | unknownCollection name => "Invalid service configuration. Unknown collection: " ++ name
  | duplicateTarget name => "Invalid service configuration. Duplicate target name: " ++ name
  | template setting e =>
    "Invalid service configuration. Bad template in '" ++ setting ++ "': " ++ e.message
  | store e => "Failed to verify collections: " ++ e.message
  | overflow o => o.message

end SeriesQuery
