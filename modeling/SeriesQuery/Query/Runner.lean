import SeriesQuery.Catalog
import SeriesQuery.Query.Response
import SeriesQuery.Store.Basic

/-!
# Running queries

A runner answers queries over a catalog. The variables of a query are split up first. For each
target that is asked for, in order, the runner makes a plan for every combination of variables, and
then runs these plans in order; a target that is not in the catalog is passed over, unless none is.
A search is answered by a query that is configured for it, or by the names of all targets.
-/

namespace SeriesQuery

/-- What queries are answered from. -/
structure Runner where
  catalog : Catalog
  /-- The variables of which each value makes a query of its own. -/
  multiValued : List String
  /-- Whether responses without rows are left out. -/
  hideEmpty : Bool
  /-- Whether responses carry the query that was run. -/
  logQuery : Bool
  /-- Queries that answer a search. -/
  searchQueries : Dict String

namespace Runner

variable {σ : Type}

/-- The runner of some settings over their catalog. -/
def ofDatasource (d : Datasource) (catalog : Catalog) : Runner where
  catalog
  multiValued := Scope.namesOf d.multiValued
  hideEmpty := d.hideEmpty
  logQuery := d.logQuery
  searchQueries := d.searchQueries

/-- The text of the name that bindings give a target. -/
def aliasOf? (data : Option Fields) : Option String :=
  (data.bind fun fields => Dict.get? fields "alias").bind Json.asStr?

/-- The template of the name that is shown, if the request or the target has one: the first that is
a text, unless it is empty. -/
def boundName? (d : Definition) (requestData : Option Fields) : Option String :=
  ((aliasOf? requestData).or (aliasOf? d.data)).filter (· ≠ "")

/-- The name that is shown for a plan. -/
def displayName (d : Definition) (requestData : Option Fields) (p : Plan) (bindings : Fields) :
    Except TemplateError String :=
  match boundName? d requestData with
  | some source => Template.fill source bindings
  | none => .ok (p.displayName.getD d.name)

/-- The plan of a target for one combination of variables. -/
def planOne (params : QueryParams) (d : Definition) (q : TargetQuery) (dashboard : Fields) :
    Except QueryError PlannedTarget := do
  let bindings := layerBindings d q.data dashboard
  let plan ← compile d bindings params.range params.interval q.shape
  let displayName ← (displayName d q.data plan bindings).mapError QueryError.template
  return {
    displayName
    plan
    origin := { displayName := d.displayName.map Template.source, view := d.view, bindings } }

/-- The plans of a target for all combinations of variables. -/
def planTarget (params : QueryParams) (namespaces : List Fields) (d : Definition)
    (q : TargetQuery) : Except QueryError (List PlannedTarget) :=
  namespaces.mapM (planOne params d q)

/-- The variables of a query, split up before anything is planned. -/
def scope (r : Runner) (params : QueryParams) : Except QueryError Scope :=
  (Scope.expand r.multiValued params.scopedVars).mapError QueryError.overflow

/-- The plans of all targets; a target that is not in the catalog is an error. -/
def plan (r : Runner) (params : QueryParams) : Except QueryError (List PlannedTarget) := do
  let scope ← r.scope params
  let plans ← params.targets.mapM fun q =>
    match r.catalog.get? q.target with
    | some d => planTarget params scope.namespaces d q
    | none => .error (.unknownTarget q.target)
  return plans.flatten

/-- Runs a plan and makes its response; nothing if it is to be left out. -/
def respond (r : Runner) (store : DocumentStore σ) (p : PlannedTarget) :
    Effect σ QueryError (Option TargetResponse) := do
  let rows ← (store.execute p.plan).mapError QueryError.store
  let response := TargetResponse.ofRows p.displayName p.plan rows
  if r.hideEmpty && rows.isEmpty then return none
  else if r.logQuery then return some { response with log := some (p.plan.toQuery, p.origin) }
  else return some response

/-- Runs plans in order. -/
def respondAll (r : Runner) (store : DocumentStore σ) :
    List PlannedTarget → Effect σ QueryError (List TargetResponse)
  | [] => return []
  | p :: ps => do
    let response ← r.respond store p
    let responses ← respondAll r store ps
    return response.toList ++ responses

/-- Answers targets in order, passing over those that are not in the catalog. -/
def answerTargets (r : Runner) (store : DocumentStore σ) (params : QueryParams)
    (namespaces : List Fields) : List TargetQuery → Effect σ QueryError (List TargetResponse)
  | [] => return []
  | q :: qs => do
    let responses ← match r.catalog.get? q.target with
      | none => pure []
      | some d => do
        let plans ← Effect.ofExcept (planTarget params namespaces d q)
        r.respondAll store plans
    let more ← answerTargets r store params namespaces qs
    return responses ++ more

/-- The names of targets that are not in the catalog. -/
def unknownNames (r : Runner) (qs : List TargetQuery) : List String :=
  (qs.map TargetQuery.target).filter fun name => !r.catalog.contains name

/-- Answers a query. -/
def query (r : Runner) (store : DocumentStore σ) (params : QueryParams) :
    Effect σ QueryError (List TargetResponse) := do
  let scope ← Effect.ofExcept (r.scope params)
  let responses ← r.answerTargets store params scope.namespaces params.targets
  let unknown := r.unknownNames params.targets
  if !params.targets.isEmpty && unknown.length == params.targets.length then
    throw (.unknownTarget (Text.joinWith ", " unknown))
  return responses

/-- Answers a search. -/
def search (r : Runner) (store : DocumentStore σ) (target : Option String) :
    Effect σ QueryError (List Json) :=
  match target.bind (Dict.get? r.searchQueries ·) with
  | some query => (store.runText query).mapError QueryError.store
  | none => pure (r.catalog.names.map Json.str)

end Runner

end SeriesQuery
