import Mathlib.Control.Monad.Basic
import SeriesQuery.Proofs.Query.Compile

/-!
# The name that is shown

A request may name what is shown of a target, the target may be configured with such a name beside
its other data, and its settings may have a template for it; its own name is shown where all these
are missing. `planOne_displayName` says that they are asked in this order, but for a request whose
name is the empty text: it names nothing, and hides the name beside the other data of the target.
-/

namespace SeriesQuery.Runner

variable {d : Definition} {requestData : Option Fields} {bindings : Fields} {params : QueryParams}
  {q : TargetQuery} {dashboard : Fields} {plan : Plan}

/-- The name that bindings give, if it is a text and not the empty one. -/
def givenName? (data : Option Fields) : Option String := (aliasOf? data).filter (· ≠ "")

/-- The name that is shown where neither a request nor the data of a target give one: the configured
one rendered, or that of the target. -/
def ownName (d : Definition) (bindings : Fields) : String :=
  (d.displayName.map (·.render bindings)).getD d.name

/-- The name that is shown by precedence: that of the request before that of the data of the target,
rendered, and otherwise the target's own. -/
def nameByPrecedence (d : Definition) (requestData : Option Fields) (bindings : Fields) :
    Except TemplateError String :=
  match (givenName? requestData).or (givenName? d.data) with
  | some source => Template.fill source bindings
  | none => .ok (ownName d bindings)

/-- The request has the empty text as a name, and the data of the target give one. -/
def HidesName (d : Definition) (requestData : Option Fields) : Prop :=
  aliasOf? requestData = some "" ∧ (givenName? d.data).isSome = true

instance (d : Definition) (requestData : Option Fields) : Decidable (HidesName d requestData) :=
  inferInstanceAs (Decidable (_ ∧ _))

/-- A request with the empty text as a name leaves no name of the target's data. -/
theorem boundName?_of_empty (h : aliasOf? requestData = some "") : boundName? d requestData = none := by
  rw [boundName?, h]
  rfl

/-- The name of a request or of the data of a target is the first that is given, unless the request
hides the other one. -/
theorem boundName?_eq (h : ¬HidesName d requestData) :
    boundName? d requestData = (givenName? requestData).or (givenName? d.data) := by
  cases hname : aliasOf? requestData with
  | none =>
      rw [boundName?, givenName?, hname, Option.none_or]
      rfl
  | some name =>
      by_cases hempty : name = ""
      · subst hempty
        have hnone : givenName? d.data = none := by
          cases hstatic : givenName? d.data with
          | none => rfl
          | some source => exact absurd ⟨hname, by rw [hstatic]; rfl⟩ h
        rw [boundName?_of_empty hname, givenName?, hname, hnone]
        rfl
      · have hgiven : (some name).filter (· ≠ "") = some name := by simp [hempty]
        rw [boundName?, givenName?, hname, Option.some_or, hgiven, Option.some_or]

/-- The configured name of a compiled plan is rendered. -/
theorem getD_displayName {range : TimeRange} {interval : Int64} {shape : Shape}
    (h : compile d bindings range interval shape = .ok plan) :
    plan.displayName.getD d.name = ownName d bindings := by
  rw [compile_ok h]
  rfl

/-- A name that a request hides is not shown, and else the names go by precedence. -/
theorem displayName_eq {range : TimeRange} {interval : Int64} {shape : Shape}
    (h : compile d bindings range interval shape = .ok plan) :
    displayName d requestData plan bindings =
      if HidesName d requestData then .ok (ownName d bindings)
      else nameByPrecedence d requestData bindings := by
  rw [displayName, getD_displayName h]
  by_cases hhides : HidesName d requestData
  · rw [if_pos hhides, boundName?_of_empty hhides.1]
  · rw [if_neg hhides, boundName?_eq hhides]
    rfl

/-- What compiles is planned with the name that is shown. -/
theorem map_displayName_planOne
    (h : compile d (layerBindings d q.data dashboard) params.range params.interval q.shape = .ok plan) :
    (planOne params d q dashboard).map PlannedTarget.displayName =
      (displayName d q.data plan (layerBindings d q.data dashboard)).mapError QueryError.template := by
  simp only [planOne, h, bind, Except.bind]
  cases displayName d q.data plan (layerBindings d q.data dashboard) with
  | error e => rfl
  | ok name => rfl

/-- A target that compiles is planned with a name: by precedence, the first name that is a text and
not empty of the request and of the data of the target, rendered with the layered bindings, and where
there is none the configured name rendered, or that of the target. Only a request whose name is the
empty text hides a name of the data; what is no text hides none. -/
theorem planOne_displayName
    (h : compile d (layerBindings d q.data dashboard) params.range params.interval q.shape = .ok plan) :
    (planOne params d q dashboard).map PlannedTarget.displayName =
      if HidesName d q.data then .ok (ownName d (layerBindings d q.data dashboard))
      else (nameByPrecedence d q.data (layerBindings d q.data dashboard)).mapError
        QueryError.template := by
  rw [map_displayName_planOne h, displayName_eq h]
  by_cases hhides : HidesName d q.data
  · rw [if_pos hhides, if_pos hhides]
    rfl
  · rw [if_neg hhides, if_neg hhides]

/-- A target whose data give a name with a slot. -/
def namedDefinition : Definition where
  name := "cpu"
  collection := "cpu"
  aggregation := .none
  filter := none
  date := .field ⟨"time", [.literal ['t', 'i', 'm', 'e']]⟩
  value := .field ⟨"value", [.literal ['v', 'a', 'l', 'u', 'e']]⟩
  dateName := ⟨"time", [.literal ['t', 'i', 'm', 'e']]⟩
  valueName := ⟨"value", [.literal ['v', 'a', 'l', 'u', 'e']]⟩
  displayName := none
  view := [("target", .str "cpu")]
  data := some [("alias", .str "all of {{target}}")]

/-- A request for this target with a name. -/
def aliasQuery (name : Json) : TargetQuery := ⟨"cpu", .series, some [("alias", name)]⟩

/-- A request for one second without variables. -/
def secondParams : QueryParams := ⟨⟨0, 1000⟩, 1000, [], []⟩

/-- The bindings of such a request. -/
def aliasBindings (name : Json) : Fields :=
  layerBindings namedDefinition (aliasQuery name).data []

/-- The name in a request that is a text comes first, and one that is a number does not hide that of
the data. -/
theorem planOne_displayName_aliases :
    (planOne secondParams namedDefinition (aliasQuery (.str "{{target}}!")) []).map
      PlannedTarget.displayName = .ok "cpu!" ∧
    (planOne secondParams namedDefinition (aliasQuery (.int 5)) []).map
      PlannedTarget.displayName = .ok "all of cpu" := by
  have htext : ¬HidesName namedDefinition (aliasQuery (.str "{{target}}!")).data := by
    decide +kernel
  have hnumber : ¬HidesName namedDefinition (aliasQuery (.int 5)).data := by decide +kernel
  have hrequest : nameByPrecedence namedDefinition
      (aliasQuery (.str "{{target}}!")).data
      (aliasBindings (.str "{{target}}!")) = .ok "cpu!" := by decide +kernel
  have hdata : nameByPrecedence namedDefinition (aliasQuery (.int 5)).data
      (aliasBindings (.int 5)) = .ok "all of cpu" := by decide +kernel
  constructor
  · rw [planOne_displayName rfl, if_neg htext, ← aliasBindings, hrequest]
    rfl
  · rw [planOne_displayName rfl, if_neg hnumber, ← aliasBindings, hdata]
    rfl

/-- A request whose name is the empty text hides the name of the data, which is the first that is
given. -/
theorem empty_alias_hides :
    (planOne secondParams namedDefinition (aliasQuery (.str "")) []).map
      PlannedTarget.displayName = .ok "cpu" ∧
    nameByPrecedence namedDefinition (aliasQuery (.str "")).data (aliasBindings (.str "")) =
      .ok "all of cpu" := by
  have hplan : compile namedDefinition (aliasBindings (.str "")) secondParams.range
      secondParams.interval .series = .ok _ := rfl
  refine ⟨?_, by decide +kernel⟩
  rw [map_displayName_planOne hplan]
  rfl

end SeriesQuery.Runner
