import SeriesQuery.Proofs.Dict
import SeriesQuery.Proofs.Query.Compile
import SeriesQuery.Proofs.Query.Steps

/-!
# What a request decides of its plans

The bindings of a plan come in layers: the data of the request over the configured data of the
target over its view, and the variables of the dashboard under a name of their own, where nothing of
the other layers shows through. They reach the rendered texts of a plan only. What a plan reads, and
how it groups that over which range, is the target's and the request's range and width, whatever
data and variables the request brings.
-/

namespace SeriesQuery

/-- Two plans read one collection for one target, and make the same rows of it over one range. -/
structure Plan.SameSource (p p' : Plan) : Prop where
  target : p.target = p'.target
  collection : p.collection = p'.collection
  aggregation : p.aggregation = p'.aggregation
  interval : p.interval = p'.interval
  range : p.range = p'.range
  shape : p.shape = p'.shape

/-- The layers of the bindings of a target. -/
structure Layered (d : Definition) (requestData : Option Fields) (dashboard bindings : Fields) :
    Prop where
  /-- The variables of the dashboard have a name of their own. -/
  dashboard : Dict.get? bindings "grafana" = some (.obj dashboard)
  /-- Every other name is looked up in the data of the request first, then in the configured data,
  and last in the view. -/
  other : ∀ key ≠ "grafana", Dict.get? bindings key =
    ((requestData.bind (Dict.get? · key)).or (d.data.bind (Dict.get? · key))).or
      (Dict.get? d.view key)
  /-- No other names are bound. -/
  keys : ∀ key, key ∈ Dict.keys bindings ↔ key = "grafana" ∨
    (∃ fields ∈ requestData, key ∈ Dict.keys fields) ∨
    (∃ fields ∈ d.data, key ∈ Dict.keys fields) ∨ key ∈ Dict.keys d.view

variable {d : Definition} {requestData : Option Fields}

/-- Data that is missing binds nothing. -/
theorem get?_getD (data : Option Fields) (key : String) :
    Dict.get? (data.getD []) key = data.bind (Dict.get? · key) := by
  cases data <;> rfl

/-- The names of data that may be missing. -/
theorem mem_keys_getD {data : Option Fields} {key : String} :
    key ∈ Dict.keys (data.getD []) ↔ ∃ fields ∈ data, key ∈ Dict.keys fields := by
  cases data with
  | none => simp [Dict.keys]
  | some fields => simp

/-- The names of data that may be missing differ. -/
theorem nodup_getD {data : Option Fields} (h : ∀ fields ∈ data, Dict.Ordered fields) :
    ((data.getD []).map Prod.fst).Nodup := by
  cases data with
  | none => exact List.nodup_nil
  | some fields => exact (h fields rfl).nodup

/-- The bindings of a target have their layers. -/
theorem layered_layerBindings (hstatic : ∀ fields ∈ d.data, Dict.Ordered fields)
    (hdata : ∀ fields ∈ requestData, Dict.Ordered fields) (dashboard : Fields) :
    Layered d requestData dashboard (layerBindings d requestData dashboard) where
  dashboard := by
    rw [layerBindings, Dict.get?_insert, if_pos rfl]
  other key hkey := by
    rw [layerBindings, Dict.get?_insert, if_neg (Ne.symm hkey),
      Dict.get?_overlay (nodup_getD hdata), Dict.get?_overlay (nodup_getD hstatic), get?_getD,
      get?_getD, Option.or_assoc]
  keys key := by
    rw [layerBindings, Dict.mem_keys_insert, Dict.mem_keys_overlay, Dict.mem_keys_overlay,
      mem_keys_getD, mem_keys_getD]

namespace Runner

variable {params params' : QueryParams} {q q' : TargetQuery} {dashboard : Fields}
  {p p' : PlannedTarget}

/-- Two plans of one target agree, whatever data and variables they were compiled with. -/
theorem sameSource_of_planOne {dashboard' : Fields} (hrange : params.range = params'.range)
    (hinterval : params.interval = params'.interval) (hshape : q.shape = q'.shape)
    (h : planOne params d q dashboard = .ok p) (h' : planOne params' d q' dashboard' = .ok p') :
    p.plan.SameSource p'.plan := by
  rw [compile_ok (planOne_compile h), compile_ok (planOne_compile h')]
  exact ⟨rfl, rfl, rfl, hinterval, hrange, hshape⟩

/-- The plans that two requests have for one target over one range, width and shape agree in all but
their rendered texts, whatever bindings their variables are split up into. The bindings of each plan
are layered, with the variables of its combination, and it is compiled with them. -/
theorem planTarget_confined {namespaces namespaces' : List Fields} {ps ps' : List PlannedTarget}
    (hstatic : ∀ fields ∈ d.data, Dict.Ordered fields)
    (hdata : ∀ fields ∈ q.data, Dict.Ordered fields)
    (hplans : planTarget params namespaces d q = .ok ps)
    (hplans' : planTarget params' namespaces' d q' = .ok ps')
    (hrange : params.range = params'.range) (hinterval : params.interval = params'.interval)
    (hshape : q.shape = q'.shape) :
    (∀ p ∈ ps, ∀ p' ∈ ps', p.plan.SameSource p'.plan) ∧
    List.Forall₂ (fun dashboard p => Layered d q.data dashboard p.origin.bindings ∧
      compile d p.origin.bindings params.range params.interval q.shape = .ok p.plan)
        namespaces ps := by
  constructor
  · intro p hp p' hp'
    obtain ⟨dashboard, -, h⟩ := exists_of_mem_mapM_ok hplans hp
    obtain ⟨dashboard', -, h'⟩ := exists_of_mem_mapM_ok hplans' hp'
    exact sameSource_of_planOne hrange hinterval hshape h h'
  · have hmade : List.Forall₂ Eq (namespaces.map (planOne params d q)) (ps.map .ok) := by
      rw [map_eq_of_mapM_ok hplans, List.forall₂_eq_eq_eq]
    rw [List.forall₂_map_left_iff, List.forall₂_map_right_iff] at hmade
    refine hmade.imp ?_
    intro dashboard p h
    obtain ⟨hplan, hbindings⟩ := planOne_ok h
    rw [hbindings]
    exact ⟨layered_layerBindings hstatic hdata dashboard, hplan⟩

/-- A target with a filter that is named by its first argument. -/
def cpuDefinition : Definition where
  name := "cpu"
  collection := "metrics"
  aggregation := .average
  filter := some ⟨"\x7b\x7bx1\x7d\x7d", [.slot ⟨"x1", []⟩]⟩
  date := .field ⟨"time", [.literal ['t', 'i', 'm', 'e']]⟩
  value := .field ⟨"load", [.literal ['l', 'o', 'a', 'd']]⟩
  dateName := ⟨"time", [.literal ['t', 'i', 'm', 'e']]⟩
  valueName := ⟨"load", [.literal ['l', 'o', 'a', 'd']]⟩
  displayName := none
  view := [("target", .str "cpu"), ("x1", .str "true")]
  data := some [("grafana", .null), ("unit", .str "s")]

/-- A runner with the target, and one variable that may have several values. -/
def cpuRunner : Runner where
  catalog := Catalog.empty.push cpuDefinition rfl
  multiValued := ["host"]
  hideEmpty := false
  logQuery := false
  searchQueries := []

/-- A request for the target with variables. -/
def cpuParams (vars : ScopedVars) : QueryParams where
  range := ⟨0, 1000⟩
  interval := 1000
  targets := []
  scopedVars := vars

/-- Data with the names of what a plan is made of. -/
def overridingData : Fields :=
  [("aggregation", .str "SUM"), ("collection", .str "logs"), ("grafana", .str "x"),
    ("target", .str "disk"), ("x1", .str "false")]

/-- Two values of the variable that may have several. -/
def hostVars : ScopedVars := [("host", ⟨none, .arr [.int 1, .int 2]⟩)]

/-- The plans of the target for variables and data. -/
def cpuPlans (vars : ScopedVars) (data : Option Fields) :
    Except QueryError (List PlannedTarget) := do
  let scope ← cpuRunner.scope (cpuParams vars)
  planTarget (cpuParams vars) scope.namespaces cpuDefinition ⟨"cpu", .series, data⟩

/-- Two plans for two values of a variable, under data that names what a plan is made of, and one
plan without variables and data: all of them read the same. -/
theorem planTarget_confined_overriding :
    ∃ ps ps', cpuPlans hostVars (some overridingData) = .ok ps ∧ cpuPlans [] none = .ok ps' ∧
      ps.length = 2 ∧ ps'.length = 1 ∧ (∀ p ∈ ps, ∀ p' ∈ ps', p.plan.SameSource p'.plan) ∧
      List.Forall₂ (fun dashboard p =>
        Layered cpuDefinition (some overridingData) dashboard p.origin.bindings ∧
          compile cpuDefinition p.origin.bindings ⟨0, 1000⟩ 1000 .series = .ok p.plan)
        [[("host", .int 1)], [("host", .int 2)]] ps := by
  have hstatic : ∀ fields ∈ cpuDefinition.data, Dict.Ordered fields := by
    rintro _ ⟨⟩
    unfold Dict.Ordered
    decide
  have hdata : ∀ fields ∈ some overridingData, Dict.Ordered fields := by
    rintro _ ⟨⟩
    unfold Dict.Ordered
    decide
  obtain ⟨ps, hps, hlen⟩ : ∃ ps, planTarget (cpuParams hostVars)
      [[("host", .int 1)], [("host", .int 2)]] cpuDefinition
        ⟨"cpu", .series, some overridingData⟩ = .ok ps ∧ ps.length = 2 := ⟨_, rfl, rfl⟩
  obtain ⟨ps', hps', hlen'⟩ : ∃ ps', planTarget (cpuParams []) [[]] cpuDefinition
      ⟨"cpu", .series, none⟩ = .ok ps' ∧ ps'.length = 1 := ⟨_, rfl, rfl⟩
  obtain ⟨hsame, hlayered⟩ := planTarget_confined hstatic hdata hps hps' rfl rfl rfl
  exact ⟨ps, ps', hps, hps', hlen, hlen', hsame, hlayered⟩

end Runner

end SeriesQuery
