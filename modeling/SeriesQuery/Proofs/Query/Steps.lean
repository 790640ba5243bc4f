import SeriesQuery.Proofs.Query.Combinations
import SeriesQuery.Proofs.Results
import SeriesQuery.Query.Runner

/-!
# The order of the steps of a query

A query is a flat list of steps: for each target of the catalog, in the order of the request, the
steps that make its plans, one for each of the bindings that its variables are split up into, and
then the steps that run them. `outcomes` performs all steps, each in the state that the one before
it leaves, and `conclusion` looks for the first one that failed. `Runner.query_eq_reference` says
that a query is answered by what its steps conclude, and that the plans which are made without
running anything are the ones that are run. Only where no word can count the choices of values there
are no bindings and no steps, and the query is broken off.
-/

namespace SeriesQuery

namespace Effect

variable {σ ε α β : Type} {m : Effect σ ε α} {f : α → Effect σ ε β} {s after : σ}

/-- A computation goes on from the state that its first part leaves, unless that fails. -/
theorem bind_apply :
    (m >>= f) s =
      match m s with
      | (.ok a, after) => f a after
      | (.error e, after) => (.error e, after) := by
  simp only [bind, ExceptT.bind, ExceptT.mk, StateT.bind]
  rcases m s with ⟨_ | _, _⟩ <;> rfl

/-- A computation that fails ends the one it is part of. -/
theorem bind_error {e : ε} (h : m s = (.error e, after)) : (m >>= f) s = (.error e, after) := by
  rw [bind_apply, h]

/-- What follows a computation that succeeds. -/
theorem bind_ok {a : α} (h : m s = (.ok a, after)) : (m >>= f) s = f a after := by
  rw [bind_apply, h]

/-- A result that succeeds is a pure one. -/
theorem ofExcept_ok (a : α) : (ofExcept (.ok a) : Effect σ ε α) = pure a := rfl

end Effect

/-- A plan that was run and the rows it gave. -/
structure Execution where
  target : PlannedTarget
  rows : List Json

/-- A step of a query, with its plan or the reason why there is none. -/
inductive QueryStep where
  /-- Makes a plan. -/
  | plan (made : Except QueryError PlannedTarget)
  /-- Runs a plan. -/
  | run (made : Except QueryError PlannedTarget)

/-- What a step gives, and the state after it. -/
abbrev Outcome (σ : Type) := Except QueryError (Option Execution) × σ

section Steps

variable {σ : Type} (store : DocumentStore σ)

/-- What a step does in a state; only running a plan asks the store. -/
def QueryStep.outcome : QueryStep → σ → Outcome σ
  | plan made, s => (made.map fun _ => none, s)
  | run (.error e), s => (.error e, s)
  | run (.ok p), s =>
    match store.execute p.plan s with
    | (.ok rows, after) => (.ok (some ⟨p, rows⟩), after)
    | (.error e, after) => (.error (.store e), after)

/-- What steps do, each in the state that the one before it leaves. -/
def outcomes : List QueryStep → σ → List (Outcome σ)
  | [], _ => []
  | step :: steps, s => step.outcome store s :: outcomes steps (step.outcome store s).2

/-- The error of a step that fails, and the state after it. -/
def Outcome.failure? : Outcome σ → Option (QueryError × σ)
  | (.error e, after) => some (e, after)
  | (.ok _, _) => none

/-- The execution of a step that runs a plan. -/
def Outcome.execution? : Outcome σ → Option Execution
  | (.ok x, _) => x
  | (.error _, _) => none

/-- What steps that start in a state come to: the error of the first one that fails, or all
executions in order. -/
def conclusion (s : σ) (results : List (Outcome σ)) : Except QueryError (List Execution) × σ :=
  match results.findSome? Outcome.failure? with
  | some (e, after) => (.error e, after)
  | none => (.ok (results.filterMap Outcome.execution?), (results.getLast?.map Prod.snd).getD s)

/-- A step that fails ends the steps. -/
theorem conclusion_error (e : QueryError) (s after : σ) (results : List (Outcome σ)) :
    conclusion s ((.error e, after) :: results) = (.error e, after) := rfl

/-- After a step that succeeds, the steps come to what the others come to. -/
theorem conclusion_ok (x : Option Execution) (s after : σ) (results : List (Outcome σ)) :
    conclusion s ((.ok x, after) :: results) =
      match conclusion after results with
      | (.ok xs, last) => (.ok (x.toList ++ xs), last)
      | (.error e, last) => (.error e, last) := by
  -- without later steps the last state is the one that this step leaves
  have hlast : (((Except.ok x, after) :: results : List (Outcome σ)).getLast?.map Prod.snd).getD s =
      (results.getLast?.map Prod.snd).getD after := by
    cases results with
    | nil => rfl
    | cons result results => simp [List.getLast?_cons]
  have hexecutions : ((Except.ok x, after) :: results : List (Outcome σ)).filterMap
      Outcome.execution? = x.toList ++ results.filterMap Outcome.execution? := by
    rw [List.filterMap_cons]
    cases x <;> rfl
  unfold conclusion
  rw [List.findSome?_cons, hlast, hexecutions]
  cases results.findSome? Outcome.failure? <;> rfl

/-- Performs steps up to the first one that fails. -/
def perform (steps : List QueryStep) : Effect σ QueryError (List Execution) := fun s =>
  conclusion s (outcomes store steps s)

/-- Without steps nothing happens. -/
@[simp] theorem perform_nil : perform store [] = pure [] := rfl

/-- A step comes before the steps after it, and its failure is the failure of all. -/
theorem perform_cons (step : QueryStep) (steps : List QueryStep) :
    perform store (step :: steps) = (do
      let x ← (step.outcome store : Effect σ QueryError (Option Execution))
      let xs ← perform store steps
      return x.toList ++ xs) := by
  funext s
  rw [perform, outcomes]
  cases h : step.outcome store s with
  | mk result after =>
      cases result with
      | error e =>
          rw [conclusion_error]
          exact (Effect.bind_error h).symm
      | ok x =>
          rw [conclusion_ok, Effect.bind_ok h]
          rw [Effect.bind_apply, perform]
          rcases conclusion after (outcomes store steps after) with ⟨_ | _, _⟩ <;> rfl

/-- Steps are performed one part after the other. -/
theorem perform_append (first second : List QueryStep) :
    perform store (first ++ second) = (do
      let xs ← perform store first
      let ys ← perform store second
      return xs ++ ys) := by
  induction first with
  | nil => simp
  | cons step steps ih =>
      rw [List.cons_append, perform_cons, perform_cons, ih]
      simp only [bind_assoc, pure_bind, List.append_assoc]

/-- Making plans asks the store for nothing, and the first plan that cannot be made is the error. -/
theorem perform_plans (made : List (Except QueryError PlannedTarget)) :
    perform store (made.map .plan) = (do
      let _ ← (Effect.ofExcept (made.mapM id) : Effect σ QueryError (List PlannedTarget))
      return []) := by
  induction made with
  | nil => rfl
  | cons p made ih =>
      rw [List.map_cons, perform_cons, ih]
      cases p with
      | error e => rfl
      | ok p =>
          rw [List.mapM_cons]
          cases made.mapM id <;> rfl

/-- Plans are run once all of them are made. -/
theorem perform_made (made : List (Except QueryError PlannedTarget)) :
    perform store (made.map .plan ++ made.map .run) = (do
      let ps ← (Effect.ofExcept (made.mapM id) : Effect σ QueryError (List PlannedTarget))
      perform store (ps.map fun p => .run (.ok p))) := by
  rw [perform_append, perform_plans]
  cases h : made.mapM id with
  | error e => rfl
  | ok ps =>
      have hmade := map_eq_of_mapM_ok h
      rw [List.map_id] at hmade
      rw [hmade, List.map_map]
      change (do let ys ← perform store (ps.map fun p => .run (.ok p)); pure ([] ++ ys)) = _
      simp only [List.nil_append, bind_pure]
      rfl

/-- Running plans fails only where the store does. -/
theorem run_error {ps : List PlannedTarget} {s after : σ} {e : QueryError}
    (h : perform store (ps.map fun p => .run (.ok p)) s = (.error e, after)) :
    ∃ x, e = .store x := by
  induction ps generalizing s with
  | nil => cases h
  | cons p ps ih =>
      rw [List.map_cons, perform_cons, Effect.bind_apply] at h
      rcases hx : store.execute p.plan s with ⟨x | rows, middle⟩
      · simp only [QueryStep.outcome, hx] at h
        cases h
        exact ⟨x, rfl⟩
      · simp only [QueryStep.outcome, hx] at h
        rw [Effect.bind_apply] at h
        rcases hrest : perform store (ps.map fun p => .run (.ok p)) middle with ⟨e' | xs, last⟩
        · rw [hrest] at h
          cases h
          exact ih hrest
        · rw [hrest] at h
          cases h

/-- The plan that a step runs. -/
def QueryStep.ran? : QueryStep → Option (Except QueryError PlannedTarget)
  | plan _ => none
  | run made => some made

/-- Where no step fails, there is one execution for each plan that is run, in the same order. -/
theorem perform_ok {steps : List QueryStep} {s after : σ} {xs : List Execution}
    (h : perform store steps s = (.ok xs, after)) :
    steps.filterMap QueryStep.ran? = xs.map fun x => .ok x.target := by
  induction steps generalizing s xs with
  | nil =>
      cases h
      rfl
  | cons step steps ih =>
      rw [perform_cons, Effect.bind_apply] at h
      rcases hstep : step.outcome store s with ⟨e | x, middle⟩
      · rw [hstep] at h
        cases h
      · rw [hstep] at h
        simp only [Effect.bind_apply] at h
        rcases hrest : perform store steps middle with ⟨e | ys, last⟩
        · rw [hrest] at h
          cases h
        · rw [hrest] at h
          cases h
          -- a step has an execution exactly if it runs a plan
          have hx : step.ran?.toList = x.toList.map fun x => .ok x.target := by
            cases step with
            | plan made => cases made <;> cases hstep; rfl
            | run made =>
                cases made with
                | error e => cases hstep
                | ok p =>
                    rw [QueryStep.outcome] at hstep
                    split at hstep <;> cases hstep
                    rfl
          rw [List.map_append, ← hx, ← ih hrest, List.filterMap_cons]
          cases step.ran? <;> rfl

end Steps

namespace Runner

variable {σ : Type} (r : Runner) (store : DocumentStore σ) (params : QueryParams)
  (namespaces : List Fields)

/-- The targets that are in the catalog, in the order of the request. -/
def knownTargets (qs : List TargetQuery) : List (Definition × TargetQuery) :=
  qs.filterMap fun q => (r.catalog.get? q.target).map fun d => (d, q)

/-- The plans of a target, one for each combination of variables. -/
def madePlans (target : Definition × TargetQuery) : List (Except QueryError PlannedTarget) :=
  namespaces.map (planOne params target.1 target.2)

/-- The steps for a target: all its plans are made before the first one is run. -/
def targetSteps (target : Definition × TargetQuery) : List QueryStep :=
  (madePlans params namespaces target).map .plan ++ (madePlans params namespaces target).map .run

/-- The steps of a query. -/
def steps : List QueryStep :=
  (r.knownTargets params.targets).flatMap (targetSteps params namespaces)

/-- The response for an execution. -/
def response (x : Execution) : TargetResponse where
  target := x.target.displayName
  shape := x.target.plan.shape
  columns := [x.target.plan.dateName, x.target.plan.valueName]
  rows := x.rows
  log := if r.logQuery then some (x.target.plan.toQuery, x.target.origin) else none

/-- The response for an execution, unless it has no rows and is left out. -/
def response? (x : Execution) : Option TargetResponse :=
  if r.hideEmpty = true ∧ x.rows = [] then none else some (r.response x)

/-- The responses for executions, in their order. -/
def responses (xs : List Execution) : List TargetResponse := xs.filterMap r.response?

/-- The answer that executions give. -/
def answer (result : Except QueryError (List Execution) × σ) :
    Except QueryError (List TargetResponse) × σ :=
  (result.1.map r.responses, result.2)

/-- Whether targets are asked for and none of them is in the catalog. -/
def AsksUnknownOnly : Prop :=
  params.targets ≠ [] ∧ ∀ q ∈ params.targets, r.catalog.get? q.target = none

/-- The responses for one more execution. -/
theorem responses_append (x : Option Execution) (xs : List Execution) :
    r.responses (x.toList ++ xs) = (x.bind r.response?).toList ++ r.responses xs := by
  cases x with
  | none => rfl
  | some x =>
      rw [responses, Option.toList_some, List.singleton_append, List.filterMap_cons]
      cases hx : r.response? x <;> simp [responses, hx]

/-- Running a plan makes the response for its execution. -/
theorem respond_eq (p : PlannedTarget) :
    r.respond store p = (do
      let x ← ((QueryStep.run (.ok p)).outcome store : Effect σ QueryError (Option Execution))
      return x.bind r.response?) := by
  funext s
  rw [respond, Effect.bind_apply, Effect.bind_apply]
  simp only [Effect.mapError, QueryStep.outcome]
  rcases store.execute p.plan s with ⟨e | rows, after⟩
  · rfl
  · have hresponse : (some (⟨p, rows⟩ : Execution)).bind r.response? =
        if r.hideEmpty && rows.isEmpty then none else some (r.response ⟨p, rows⟩) := by
      simp [response?]
    simp only [hresponse]
    cases r.hideEmpty && rows.isEmpty with
    | true => rfl
    | false =>
        cases hlog : r.logQuery <;> simp only [response, hlog] <;> rfl

/-- Running plans in order makes the responses for their executions. -/
theorem respondAll_eq (ps : List PlannedTarget) :
    r.respondAll store ps = (do
      let xs ← perform store (ps.map fun p => .run (.ok p))
      return r.responses xs) := by
  induction ps with
  | nil => rfl
  | cons p ps ih =>
      rw [respondAll, List.map_cons, perform_cons, respond_eq, ih]
      simp only [bind_assoc, pure_bind, responses_append]

/-- Answering targets in order is performing their steps. -/
theorem answerTargets_eq (qs : List TargetQuery) :
    r.answerTargets store params namespaces qs = (do
      let xs ← perform store ((r.knownTargets qs).flatMap (targetSteps params namespaces))
      return r.responses xs) := by
  induction qs with
  | nil => rfl
  | cons q qs ih =>
      rw [answerTargets, ih]
      cases hd : r.catalog.get? q.target with
      | none => simp [knownTargets, hd]
      | some d =>
          have hknown : r.knownTargets (q :: qs) = (d, q) :: r.knownTargets qs := by
            simp [knownTargets, hd]
          have hplans : planTarget params namespaces d q =
              (madePlans params namespaces (d, q)).mapM id := by
            simp [planTarget, madePlans, List.mapM_map]
          rw [hknown, List.flatMap_cons, perform_append, targetSteps, perform_made]
          simp only [hplans, bind_assoc, pure_bind, respondAll_eq, responses,
            List.filterMap_append]

/-- Where only unknown targets are asked for, there are no steps, and all names are unknown. -/
theorem unknown_only {qs : List TargetQuery} (h : ∀ q ∈ qs, r.catalog.get? q.target = none) :
    r.knownTargets qs = [] ∧ r.unknownNames qs = qs.map TargetQuery.target := by
  constructor
  · rw [knownTargets, List.filterMap_eq_nil_iff]
    intro q hq
    simp [h q hq]
  · rw [unknownNames, List.filter_eq_self]
    intro name hname
    obtain ⟨q, hq, rfl⟩ := List.mem_map.1 hname
    simp [Catalog.contains_eq, h q hq]

/-- Whether the names that are unknown are all names. -/
theorem length_unknownNames (qs : List TargetQuery) :
    (r.unknownNames qs).length = qs.length ↔ ∀ q ∈ qs, r.catalog.get? q.target = none := by
  rw [unknownNames, ← List.length_map TargetQuery.target, List.length_filter_eq_length_iff]
  simp [Catalog.contains_eq]

section Scope

variable {scope : Scope} (hscope : Scope.expand r.multiValued params.scopedVars = .ok scope)

include hscope

/-- The variables of a query are split up before anything else. -/
theorem scope_ok : r.scope params = .ok scope := by
  rw [Runner.scope, hscope]
  rfl

/-- A query that asks for unknown targets only fails with their names. -/
theorem query_unknown (h : r.AsksUnknownOnly params) (s : σ) :
    r.query store params s =
      (.error (.unknownTarget (Text.joinWith ", " (params.targets.map TargetQuery.target))),
        s) := by
  obtain ⟨hasked, hnone⟩ := h
  obtain ⟨hknown, hnames⟩ := r.unknown_only hnone
  have hanswer : r.answerTargets store params scope.namespaces params.targets = pure [] := by
    rw [answerTargets_eq, hknown]
    rfl
  have hempty : params.targets.isEmpty = false := by simpa using hasked
  rw [query, r.scope_ok params hscope, Effect.ofExcept_ok, pure_bind, hanswer, hnames]
  simp only [hempty, List.length_map, beq_self_eq_true, Bool.not_false, Bool.and_self, if_true,
    pure_bind]
  rfl

/-- Every other query is answered by what its steps conclude. -/
theorem query_known (h : ¬ r.AsksUnknownOnly params) (s : σ) :
    r.query store params s =
      r.answer (perform store (r.steps params scope.namespaces) s) := by
  have hcheck : (!params.targets.isEmpty &&
      (r.unknownNames params.targets).length == params.targets.length) = false := by
    rw [Bool.eq_false_iff]
    intro hcheck
    rw [Bool.and_eq_true, beq_iff_eq, length_unknownNames] at hcheck
    exact h ⟨by simpa using hcheck.1, hcheck.2⟩
  rw [query, r.scope_ok params hscope, Effect.ofExcept_ok, pure_bind, answerTargets_eq]
  simp only [hcheck, Bool.false_eq_true, if_false, bind_assoc, pure_bind]
  rw [Effect.bind_apply, answer, ← steps]
  rcases perform store (r.steps params scope.namespaces) s with ⟨_ | _, _⟩ <;> rfl

end Scope

section Overflows

variable {o : Overflow} (hscope : Scope.expand r.multiValued params.scopedVars = .error o)

include hscope

/-- The variables of a query cannot be split up. -/
theorem scope_error : r.scope params = .error (.overflow o) := by
  rw [Runner.scope, hscope]
  rfl

/-- Then nothing is planned. -/
theorem plan_overflow : r.plan params = .error (.overflow o) := by
  rw [plan, r.scope_error params hscope]
  rfl

/-- And nothing is asked for. -/
theorem query_overflow (s : σ) : r.query store params s = (.error (.overflow o), s) := by
  rw [query, r.scope_error params hscope]
  rfl

end Overflows

/-- The plans of targets that are all in the catalog. -/
def plansOf (qs : List TargetQuery) : Except QueryError (List (List PlannedTarget)) :=
  qs.mapM fun q =>
    match r.catalog.get? q.target with
    | some d => planTarget params namespaces d q
    | none => .error (.unknownTarget q.target)

/-- The plans of the first target come first. -/
theorem plansOf_cons {d : Definition} {q : TargetQuery} {qs : List TargetQuery}
    (h : r.catalog.get? q.target = some d) :
    r.plansOf params namespaces (q :: qs) = (do
      let ps ← (madePlans params namespaces (d, q)).mapM id
      let rest ← r.plansOf params namespaces qs
      return ps :: rest) := by
  simp [plansOf, h, planTarget, madePlans, List.mapM_map]

/-- Where all plans can be made, the steps of a query are to run them in order. -/
theorem perform_planned {qs : List TargetQuery} {plans : List (List PlannedTarget)}
    (h : r.plansOf params namespaces qs = .ok plans) :
    perform store ((r.knownTargets qs).flatMap (targetSteps params namespaces)) =
      perform store (plans.flatten.map fun p => .run (.ok p)) := by
  induction qs generalizing plans with
  | nil =>
      cases h
      rfl
  | cons q qs ih =>
      cases hd : r.catalog.get? q.target with
      | none =>
          rw [plansOf, List.mapM_cons, hd] at h
          cases h
      | some d =>
          have hknown : r.knownTargets (q :: qs) = (d, q) :: r.knownTargets qs := by
            simp [knownTargets, hd]
          rw [plansOf_cons r params namespaces hd] at h
          cases hps : (madePlans params namespaces (d, q)).mapM id with
          | error e =>
              rw [hps] at h
              cases h
          | ok ps =>
              cases hrest : r.plansOf params namespaces qs with
              | error e =>
                  rw [hps, hrest] at h
                  cases h
              | ok rest =>
                  rw [hps, hrest] at h
                  cases h
                  rw [hknown, List.flatMap_cons, perform_append, targetSteps, perform_made, hps,
                    ih hrest, List.flatten_cons, List.map_append, perform_append]
                  rfl

/-- Where all targets are known and a plan cannot be made, a query fails with the same error, or
earlier with an error of the store. -/
theorem perform_unplanned {qs : List TargetQuery} {e : QueryError}
    (hknown : ∀ q ∈ qs, r.catalog.contains q.target = true)
    (h : r.plansOf params namespaces qs = .error e) (s : σ) :
    ∃ e' after, perform store ((r.knownTargets qs).flatMap (targetSteps params namespaces)) s =
      (.error e', after) ∧ (e' = e ∨ ∃ x, e' = .store x) := by
  induction qs generalizing s with
  | nil => cases h
  | cons q qs ih =>
      have hq := hknown q List.mem_cons_self
      rw [Catalog.contains_eq] at hq
      obtain ⟨d, hd⟩ := Option.isSome_iff_exists.1 hq
      have hcons : r.knownTargets (q :: qs) = (d, q) :: r.knownTargets qs := by
        simp [knownTargets, hd]
      rw [plansOf_cons r params namespaces hd] at h
      rw [hcons, List.flatMap_cons, perform_append, targetSteps, perform_made]
      cases hps : (madePlans params namespaces (d, q)).mapM id with
      | error e' =>
          rw [hps] at h
          cases h
          exact ⟨e, s, rfl, .inl rfl⟩
      | ok ps =>
          cases hrest : r.plansOf params namespaces qs with
          | ok rest =>
              rw [hps, hrest] at h
              cases h
          | error e' =>
              rw [hps, hrest] at h
              cases h
              -- the runs for this target come first, and only the store can fail in them
              simp only [Effect.ofExcept_ok, pure_bind]
              cases hrun : perform store (ps.map fun p => .run (.ok p)) s with
              | mk result after =>
                  cases result with
                  | error e' =>
                      exact ⟨e', after, Effect.bind_error hrun, .inr (run_error store hrun)⟩
                  | ok xs =>
                      rw [Effect.bind_ok hrun]
                      obtain ⟨e', last, hlast, he'⟩ := ih
                        (fun q hq => hknown q (List.mem_cons_of_mem _ hq)) hrest after
                      exact ⟨e', last, Effect.bind_error hlast, he'⟩

/-- The plans that are made without running anything are those of all targets in order. -/
theorem plan_eq {scope : Scope}
    (hscope : Scope.expand r.multiValued params.scopedVars = .ok scope) :
    r.plan params = (r.plansOf params scope.namespaces params.targets).map List.flatten := by
  rw [plan, r.scope_ok params hscope]
  show (do let plans ← r.plansOf params scope.namespaces params.targets; return plans.flatten) = _
  cases r.plansOf params scope.namespaces params.targets <;> rfl

/-- Where they can be made, the plans of the targets can. -/
theorem plan_ok {scope : Scope} (hscope : Scope.expand r.multiValued params.scopedVars = .ok scope)
    {ps : List PlannedTarget} (h : r.plan params = .ok ps) :
    ∃ plans, r.plansOf params scope.namespaces params.targets = .ok plans ∧ plans.flatten = ps := by
  rw [r.plan_eq params hscope] at h
  exact exists_of_map_ok h

/-- Making the plans without running anything fails as making the plans of the targets does. -/
theorem plan_error {scope : Scope}
    (hscope : Scope.expand r.multiValued params.scopedVars = .ok scope) {e : QueryError}
    (h : r.plan params = .error e) :
    r.plansOf params scope.namespaces params.targets = .error e := by
  rw [r.plan_eq params hscope] at h
  cases hplans : r.plansOf params scope.namespaces params.targets with
  | error e =>
      rw [hplans] at h
      cases h
      rfl
  | ok plans =>
      rw [hplans] at h
      cases h

/-- Where all plans can be made, all targets are known. -/
theorem known_of_plansOf {qs : List TargetQuery} {plans : List (List PlannedTarget)}
    (h : r.plansOf params namespaces qs = .ok plans) :
    ∀ q ∈ qs, r.catalog.contains q.target = true := by
  induction qs generalizing plans with
  | nil => simp
  | cons q qs ih =>
      cases hd : r.catalog.get? q.target with
      | none =>
          rw [plansOf, List.mapM_cons, hd] at h
          cases h
      | some d =>
          rw [plansOf_cons r params namespaces hd] at h
          cases hrest : r.plansOf params namespaces qs with
          | error e =>
              rw [hrest] at h
              cases hps : (madePlans params namespaces (d, q)).mapM id <;> rw [hps] at h <;> cases h
          | ok rest => simpa [Catalog.contains_eq, hd] using ih hrest

/-- The plans that the steps of a query run are the plans of its targets, in order. -/
theorem filterMap_steps :
    (r.steps params namespaces).filterMap QueryStep.ran? =
      (r.knownTargets params.targets).flatMap (madePlans params namespaces) := by
  have hplan : (QueryStep.ran? ∘ QueryStep.plan) = fun _ => none := rfl
  have hrun : (QueryStep.ran? ∘ QueryStep.run) = some := rfl
  rw [steps, List.filterMap_flatMap]
  congr 1
  funext target
  rw [targetSteps, List.filterMap_append, List.filterMap_map, List.filterMap_map, hplan, hrun]
  simp

/-- Where all targets are known, they are not all unknown. -/
theorem not_asksUnknownOnly
    (h : ∀ q ∈ params.targets, r.catalog.contains q.target = true) :
    ¬ r.AsksUnknownOnly params := by
  rintro ⟨hasked, hnone⟩
  obtain ⟨q, hq⟩ := List.exists_mem_of_ne_nil _ hasked
  have hknown := h q hq
  rw [Catalog.contains_eq, hnone q hq] at hknown
  cases hknown

/-- The variables of a query are split up first, if a word can count the choices of their values.
Then a query for unknown targets only fails with their names, and every other query is answered by
what its steps conclude: the responses for its executions, one for each plan of a known target and
each of the bindings, in order, or the error of the first step that fails. Where all targets are
known, what is run are the plans that are made without running anything. If no word can count the
choices, nothing is planned or run. -/
theorem query_eq_reference (s : σ) :
    (∀ scope, Scope.expand r.multiValued params.scopedVars = .ok scope →
      (r.AsksUnknownOnly params → r.query store params s =
        (.error (.unknownTarget (Text.joinWith ", " (params.targets.map TargetQuery.target))),
          s)) ∧
      (¬ r.AsksUnknownOnly params → r.query store params s =
        r.answer (conclusion s (outcomes store (r.steps params scope.namespaces) s))) ∧
      (∀ xs after, conclusion s (outcomes store (r.steps params scope.namespaces) s) =
        (.ok xs, after) →
          (r.knownTargets params.targets).flatMap (madePlans params scope.namespaces) =
            xs.map fun x => .ok x.target) ∧
      (∀ ps, r.plan params = .ok ps → r.query store params s =
        r.answer (conclusion s (outcomes store (ps.map fun p => .run (.ok p)) s))) ∧
      (∀ e, r.plan params = .error e →
        (∀ q ∈ params.targets, r.catalog.contains q.target = true) →
          ∃ e' after, r.query store params s = (.error e', after) ∧
            (e' = e ∨ ∃ x, e' = .store x))) ∧
    (∀ o, Scope.expand r.multiValued params.scopedVars = .error o →
      r.query store params s = (.error (.overflow o), s) ∧
      r.plan params = .error (.overflow o)) ∧
    ((∃ scope, Scope.expand r.multiValued params.scopedVars = .ok scope ∧
        scope.combinations ≠ []) ↔
      ((Scope.selections r.multiValued params.scopedVars).map List.length).prod < 2 ^ 64) := by
  refine ⟨fun scope hscope => ?_,
    fun o h => ⟨r.query_overflow store params h s, r.plan_overflow params h⟩,
    Scope.expand_ne_nil_iff⟩
  refine ⟨fun h => r.query_unknown store params hscope h s,
    fun h => r.query_known store params hscope h s,
    fun xs after h => ?_, fun ps h => ?_, fun e h hknown => ?_⟩
  · rw [← filterMap_steps]
    exact perform_ok store h
  · obtain ⟨plans, hplans, rfl⟩ := r.plan_ok params hscope h
    have hasked := r.not_asksUnknownOnly params (r.known_of_plansOf params _ hplans)
    rw [r.query_known store params hscope hasked, steps,
      perform_planned r store params _ hplans]
    rfl
  · have hplans := r.plan_error params hscope h
    have hasked := r.not_asksUnknownOnly params hknown
    obtain ⟨e', after, hfail, he'⟩ := r.perform_unplanned store params _ hknown hplans s
    refine ⟨e', after, ?_, he'⟩
    rw [r.query_known store params hscope hasked, steps, hfail]
    rfl

/-- A target whose name that is shown is the host of the dashboard. -/
def loadDefinition : Definition where
  name := "load"
  collection := "metrics"
  aggregation := .none
  filter := none
  date := .field ⟨"time", [.literal ['t', 'i', 'm', 'e']]⟩
  value := .field ⟨"load", [.literal ['l', 'o', 'a', 'd']]⟩
  dateName := ⟨"time", [.literal ['t', 'i', 'm', 'e']]⟩
  valueName := ⟨"load", [.literal ['l', 'o', 'a', 'd']]⟩
  displayName := some ⟨"\x7b\x7bgrafana.host\x7d\x7d", [.slot ⟨"grafana", ["host"]⟩]⟩
  view := []
  data := none

/-- A runner with the target, which leaves out responses without rows. -/
def loadRunner (multiValued : List String) : Runner where
  catalog := Catalog.empty.push loadDefinition rfl
  multiValued
  hideEmpty := true
  logQuery := false
  searchQueries := []

/-- A request for targets with variables. -/
def loadParams (targets : List TargetQuery) (vars : ScopedVars) : QueryParams where
  range := ⟨0, 1000⟩
  interval := 1000
  targets
  scopedVars := vars

/-- A store whose state is the rows of the answers that it will give, one after the other. -/
def scriptStore : DocumentStore (List (List Json)) where
  name := "script"
  ping script := (.ok (), script)
  hasCollection _ script := (.ok true, script)
  execute _ script :=
    match script with
    | [] => (.error .timeout, [])
    | rows :: script => (.ok rows, script)
  runText _ script := (.ok [], script)

/-- A request for an unknown target and for this one, with three hosts. -/
def loadQuery : QueryParams :=
  loadParams [⟨"disk", .series, none⟩, ⟨"load", .series, none⟩]
    [("host", ⟨none, .arr [.int 1, .int 2, .int 3]⟩), ("zone", ⟨none, .bool true⟩)]

/-- The variables of this request. -/
def loadScope : Scope :=
  ⟨[("zone", .bool true)], [[("host", .int 1)], [("host", .int 2)], [("host", .int 3)]]⟩

/-- The unknown target is passed over, and the other one is asked for once for each host. The host
in the middle has no rows and is left out. -/
theorem query_three_hosts :
    Scope.expand (loadRunner ["host"]).multiValued loadQuery.scopedVars = .ok loadScope ∧
    ¬(loadRunner ["host"]).AsksUnknownOnly loadQuery ∧
    ∃ responses, (loadRunner ["host"]).query scriptStore loadQuery
        [[.int 7], [], [.int 8, .int 9], [.int 10]] = (.ok responses, [[.int 10]]) ∧
      responses.map (fun response => (response.target, response.rows)) =
        [("1", [.int 7]), ("3", [.int 8, .int 9])] := by
  have hscope : Scope.expand (loadRunner ["host"]).multiValued loadQuery.scopedVars =
      .ok loadScope := rfl
  have hknown : ¬(loadRunner ["host"]).AsksUnknownOnly loadQuery := by
    rintro ⟨-, hnone⟩
    cases hnone ⟨"load", .series, none⟩ (List.mem_cons_of_mem _ List.mem_cons_self)
  obtain ⟨-, hquery, -⟩ := (query_eq_reference (loadRunner ["host"]) scriptStore loadQuery
    [[.int 7], [], [.int 8, .int 9], [.int 10]]).1 loadScope hscope
  exact ⟨hscope, hknown, _, hquery hknown, rfl⟩

/-- A request without targets has no steps, so they conclude with an empty answer, whatever its
variables are. But with sixteen values for each of sixteen variables it is broken off. -/
theorem query_broken_off :
    (∀ namespaces, (loadRunner Scope.manyNames).answer (conclusion [] (outcomes scriptStore
      ((loadRunner Scope.manyNames).steps (loadParams [] Scope.manyVars) namespaces) [])) =
        (.ok [], [])) ∧
    (loadRunner Scope.manyNames).query scriptStore (loadParams [] Scope.manyVars) [] =
      (.error (.overflow .multiply), []) ∧
    (loadRunner Scope.manyNames).plan (loadParams [] Scope.manyVars) =
      .error (.overflow .multiply) := by
  have hscope : Scope.expand (loadRunner Scope.manyNames).multiValued
      (loadParams [] Scope.manyVars).scopedVars = .error .multiply := Scope.expand_manyVars
  exact ⟨fun _ => rfl, query_overflow _ _ _ hscope [], plan_overflow _ _ hscope⟩

end Runner

end SeriesQuery
