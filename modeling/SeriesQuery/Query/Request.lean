import SeriesQuery.Json.Decode
import SeriesQuery.Query.Plan
import SeriesQuery.Query.Scope

/-!
# What a query asks for
-/

namespace SeriesQuery

namespace Shape

/-- The name of a shape. -/
def name : Shape → String
  | series => "timeserie"
  | table => "table"

/-- The shape with a name. -/
def ofName? (s : String) : Option Shape := [series, table].find? fun shape => shape.name == s

end Shape

/-- A target that is asked for. -/
structure TargetQuery where
  /-- Its name. -/
  target : String
  /-- The shape of its rows. -/
  shape : Shape
  /-- Bindings for this request only. -/
  data : Option Fields

/-- A query: what is asked for, over which time, and with which variables. -/
structure QueryParams where
  range : TimeRange
  /-- Width of a bucket in milliseconds. -/
  interval : Int64
  targets : List TargetQuery
  scopedVars : ScopedVars

/-- Decodes a target that is asked for. -/
def TargetQuery.decode : Decoder TargetQuery :=
  Decode.record ⟨"", .series, none⟩
    [Decode.field .required "target" Decode.text fun q v => { q with target := v },
      Decode.field .defaulted "type" (Decode.variant Shape.ofName?)
        fun q v => { q with shape := v },
      Decode.field .defaulted "data" (Decode.orNull (Decode.dict Decode.value))
        fun q v => { q with data := v }]

/-- Decodes a variable. -/
def ScopedVariable.decode : Decoder ScopedVariable :=
  Decode.record ⟨none, .null⟩
    [Decode.field .defaulted "text" (Decode.orNull Decode.value) fun s v => { s with text := v },
      Decode.field .defaulted "value" Decode.value fun s v => { s with value := v }]

/-- Decodes the variables of a request. -/
def ScopedVars.decode : Decoder ScopedVars := Decode.dict ScopedVariable.decode

end SeriesQuery
