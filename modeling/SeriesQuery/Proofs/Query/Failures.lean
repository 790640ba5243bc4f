import SeriesQuery.Proofs.Query.Compile
import SeriesQuery.Proofs.Query.Steps

/-!
# Why queries fail

With a positive width of buckets and a range that starts before it ends every target compiles, so
the one thing that keeps a plan from being made is a name that is no template. A query fails because
no word can count the choices of its variables, because only unknown targets are asked for, or with
the error of one of its steps: that of a plan which cannot be made, or that of the store which ran
one.
-/

namespace SeriesQuery

/-! ### One plan -/

section Plans

variable {d : Definition} {bindings : Fields} {range : TimeRange} {interval : Int64} {shape : Shape}
  {params : QueryParams} {q : TargetQuery} {dashboard : Fields} {e : TemplateError}

/-- A width of buckets and a range that are checked already are not refused. -/
theorem compile_valid (hinterval : 0 < interval) (hrange : range.start < range.stop)
    (d : Definition) (bindings : Fields) (shape : Shape) :
    ∃ plan, compile d bindings range interval shape = .ok plan := by
  have hpositive : ¬ interval ≤ 0 := Int64.not_le.2 hinterval
  rw [compile, if_neg hpositive, TimeRange.ofBounds?, if_pos hrange]
  exact ⟨_, rfl⟩

/-- A name is wrong in one way only. -/
theorem Runner.HasBadName.unique {requestData : Option Fields} {e' : TemplateError}
    (h : Runner.HasBadName d requestData e) (h' : Runner.HasBadName d requestData e') : e = e' := by
  obtain ⟨source, hsource, he⟩ := h
  obtain ⟨source', hsource', he'⟩ := h'
  cases hsource.symm.trans hsource'
  cases he.symm.trans he'
  rfl

/-- A plan that fails for a template has a name that is none. -/
theorem planOne_template (h : Runner.planOne params d q dashboard = .error (.template e)) :
    Runner.HasBadName d q.data e := by
  rcases planOne_cases params d q dashboard with
    ⟨e', hplan, herror⟩ | ⟨e', hbad, herror⟩ | ⟨-, p, -, hmade⟩
  · cases herror.symm.trans h
    -- compiling reads no template
    rcases compile_error hplan with hwidth | hrange
    · cases hwidth
    · cases hrange
  · cases herror.symm.trans h
    exact hbad
  · cases hmade.symm.trans h

/-- With a checked width and range, a plan is made unless its name is no template. -/
theorem planOne_valid (hinterval : 0 < params.interval)
    (hrange : params.range.start < params.range.stop) (d : Definition) (q : TargetQuery)
    (dashboard : Fields) :
    ((∀ e, ¬ Runner.HasBadName d q.data e) ∧ ∃ p, Runner.planOne params d q dashboard = .ok p) ∨
    ∃ e, Runner.HasBadName d q.data e ∧
      Runner.planOne params d q dashboard = .error (.template e) := by
  rcases planOne_cases params d q dashboard with ⟨e, hplan, -⟩ | hbad | ⟨hgood, p, -, hmade⟩
  · obtain ⟨plan, hok⟩ :=
      compile_valid hinterval hrange d (layerBindings d q.data dashboard) q.shape
    cases hok.symm.trans hplan
  · exact .inr hbad
  · exact .inl ⟨hgood, p, hmade⟩

/-- No plan is made under a name that is no template. -/
theorem planOne_of_hasBadName (hinterval : 0 < params.interval)
    (hrange : params.range.start < params.range.stop) (h : Runner.HasBadName d q.data e)
    (dashboard : Fields) : Runner.planOne params d q dashboard = .error (.template e) := by
  rcases planOne_valid hinterval hrange d q dashboard with ⟨hgood, -⟩ | ⟨e', hbad, herror⟩
  · exact absurd h (hgood e)
  · rw [herror, hbad.unique h]

end Plans

/-! ### One step of several -/

section Steps

variable {σ : Type} {store : DocumentStore σ}

/-- What steps come to is the failure of one of them, or all went well. -/
theorem conclusion_cases (s : σ) (results : List (Outcome σ)) :
    (∃ e after, (.error e, after) ∈ results ∧ conclusion s results = (.error e, after)) ∨
    ∃ xs, conclusion s results = (.ok xs, (results.getLast?.map Prod.snd).getD s) := by
  unfold conclusion
  cases hfailure : results.findSome? Outcome.failure? with
  | none => exact .inr ⟨_, rfl⟩
  | some failure =>
      obtain ⟨⟨result, after⟩, hmem, hresult⟩ := List.exists_of_findSome?_eq_some hfailure
      cases result with
      | ok x => cases hresult
      | error e =>
          cases hresult
          exact .inl ⟨e, after, hmem, rfl⟩

/-- Each outcome is that of one of the steps, in some state. -/
theorem exists_of_mem_outcomes {steps : List QueryStep} {s : σ} {result : Outcome σ}
    (h : result ∈ outcomes store steps s) :
    ∃ step ∈ steps, ∃ before, step.outcome store before = result := by
  induction steps generalizing s with
  | nil => cases h
  | cons step steps ih =>
      rcases List.mem_cons.1 h with rfl | h
      · exact ⟨step, List.mem_cons_self, s, rfl⟩
      · obtain ⟨later, hlater, before, hbefore⟩ := ih h
        exact ⟨later, List.mem_cons_of_mem step hlater, before, hbefore⟩

end Steps

namespace Runner

variable {σ : Type} {r : Runner} {store : DocumentStore σ} {params : QueryParams} {d : Definition}
  {q : TargetQuery} {e : QueryError}

/-- A target of the catalog is asked for. -/
structure Asks (r : Runner) (params : QueryParams) (d : Definition) (q : TargetQuery) : Prop where
  mem : q ∈ params.targets
  get? : r.catalog.get? q.target = some d

/-- The variables of a query are split up, and these are the bindings of one combination. -/
def IsDashboard (r : Runner) (params : QueryParams) (dashboard : Fields) : Prop :=
  ∃ scope, Scope.expand r.multiValued params.scopedVars = .ok scope ∧ dashboard ∈ scope.namespaces

/-- A target of the catalog is asked for, and there is no plan for it in one of the combinations of
variables. -/
inductive LacksPlan (r : Runner) (params : QueryParams) (e : QueryError) : Prop
  | intro {d : Definition} {q : TargetQuery} {dashboard : Fields} (hasked : r.Asks params d q)
      (hdashboard : r.IsDashboard params dashboard)
      (hplan : planOne params d q dashboard = .error e)

/-- A target of the catalog is asked for, and the store fails on one of its plans. -/
inductive LacksRows (r : Runner) (store : DocumentStore σ) (params : QueryParams) (e : StoreError) :
    Prop
  | intro {d : Definition} {q : TargetQuery} {dashboard : Fields} {p : PlannedTarget}
      {before after : σ} (hasked : r.Asks params d q) (hdashboard : r.IsDashboard params dashboard)
      (hplan : planOne params d q dashboard = .ok p)
      (hexecute : store.execute p.plan before = (.error e, after))

/-- A step of a query makes or runs a plan for a target that is asked for. -/
theorem exists_of_mem_steps {scope : Scope}
    (hscope : Scope.expand r.multiValued params.scopedVars = .ok scope) {step : QueryStep}
    (h : step ∈ r.steps params scope.namespaces) :
    ∃ d q dashboard, r.Asks params d q ∧ r.IsDashboard params dashboard ∧
      (step = .plan (planOne params d q dashboard) ∨
        step = .run (planOne params d q dashboard)) := by
  obtain ⟨⟨d, q⟩, htarget, hstep⟩ := List.mem_flatMap.1 h
  obtain ⟨q', hq, hknown⟩ := List.mem_filterMap.1 htarget
  obtain ⟨d', hd, heq⟩ := Option.map_eq_some_iff.1 hknown
  cases heq
  rcases List.mem_append.1 hstep with hstep | hstep
  · obtain ⟨made, hmade, rfl⟩ := List.mem_map.1 hstep
    obtain ⟨dashboard, hdashboard, rfl⟩ := List.mem_map.1 hmade
    exact ⟨d, q, dashboard, ⟨hq, hd⟩, ⟨scope, hscope, hdashboard⟩, .inl rfl⟩
  · obtain ⟨made, hmade, rfl⟩ := List.mem_map.1 hstep
    obtain ⟨dashboard, hdashboard, rfl⟩ := List.mem_map.1 hmade
    exact ⟨d, q, dashboard, ⟨hq, hd⟩, ⟨scope, hscope, hdashboard⟩, .inr rfl⟩

/-- A step of a query fails for its plan or for the store. -/
theorem step_error {scope : Scope}
    (hscope : Scope.expand r.multiValued params.scopedVars = .ok scope) {step : QueryStep}
    (hstep : step ∈ r.steps params scope.namespaces) {before after : σ}
    (h : step.outcome store before = (.error e, after)) :
    r.LacksPlan params e ∨ ∃ x, e = .store x ∧ r.LacksRows store params x := by
  obtain ⟨d, q, dashboard, hasked, hmem, hmade⟩ := exists_of_mem_steps hscope hstep
  cases hplan : planOne params d q dashboard with
  | error e' =>
      rw [hplan] at hmade
      have he : e' = e := by rcases hmade with rfl | rfl <;> cases h <;> rfl
      exact .inl ⟨hasked, hmem, he ▸ hplan⟩
  | ok p =>
      rw [hplan] at hmade
      rcases hmade with rfl | rfl
      · cases h
      · rw [QueryStep.outcome] at h
        split at h
        · cases h
        · next x _ hexecute =>
            cases h
            exact .inr ⟨x, rfl, hasked, hmem, hplan, hexecute⟩

/-- A query fails because no word can count the choices of its variables, because all its targets
are unknown, for a plan or for the store. -/
theorem query_error {s : σ} (h : (r.query store params s).1 = .error e) :
    (∃ o, Scope.expand r.multiValued params.scopedVars = .error o ∧ e = .overflow o) ∨
    (r.AsksUnknownOnly params ∧
      e = .unknownTarget (Text.joinWith ", " (params.targets.map TargetQuery.target))) ∨
    r.LacksPlan params e ∨ ∃ x, e = .store x ∧ r.LacksRows store params x := by
  cases hscope : Scope.expand r.multiValued params.scopedVars with
  | error o =>
      rw [r.query_overflow store params hscope] at h
      cases h
      exact .inl ⟨o, rfl, rfl⟩
  | ok scope =>
      right
      by_cases hasked : r.AsksUnknownOnly params
      · rw [r.query_unknown store params hscope hasked] at h
        cases h
        exact .inl ⟨hasked, rfl⟩
      · rw [r.query_known store params hscope hasked, perform] at h
        rcases conclusion_cases s (outcomes store (r.steps params scope.namespaces) s) with
          ⟨e', after, hmem, hconclusion⟩ | ⟨xs, hconclusion⟩
        · rw [hconclusion] at h
          cases h
          obtain ⟨step, hstep, before, houtcome⟩ := exists_of_mem_outcomes hmem
          exact .inr (step_error hscope hstep houtcome)
        · rw [hconclusion] at h
          cases h

/-- Planning fails because no word can count the choices of the variables, for a target that is
unknown or for a plan. -/
theorem plan_error_cases (h : r.plan params = .error e) :
    (∃ o, Scope.expand r.multiValued params.scopedVars = .error o ∧ e = .overflow o) ∨
    (∃ q ∈ params.targets, r.catalog.get? q.target = none ∧ e = .unknownTarget q.target) ∨
    r.LacksPlan params e := by
  cases hscope : Scope.expand r.multiValued params.scopedVars with
  | error o =>
      rw [r.plan_overflow params hscope] at h
      cases h
      exact .inl ⟨o, rfl, rfl⟩
  | ok scope =>
      right
      obtain ⟨q, hq, he⟩ := exists_of_mapM_error (r.plan_error params hscope h)
      cases hd : r.catalog.get? q.target with
      | none =>
          simp only [hd] at he
          cases he
          exact .inl ⟨q, hq, hd, rfl⟩
      | some d =>
          simp only [hd, planTarget] at he
          obtain ⟨dashboard, hmem, hplan⟩ := exists_of_mapM_error he
          exact .inr ⟨⟨hq, hd⟩, ⟨scope, hscope, hmem⟩, hplan⟩

/-- With a checked width and range, a plan is missing for its name only. -/
theorem LacksPlan.hasBadName (h : r.LacksPlan params e) (hinterval : 0 < params.interval)
    (hrange : params.range.start < params.range.stop) :
    ∃ x d q, e = .template x ∧ r.Asks params d q ∧ HasBadName d q.data x := by
  obtain ⟨hasked, -, hplan⟩ := h
  rcases planOne_valid hinterval hrange _ _ _ with ⟨-, p, hok⟩ | ⟨x, hbad, herror⟩
  · cases hok.symm.trans hplan
  · cases herror.symm.trans hplan
    exact ⟨x, _, _, rfl, hasked, hbad⟩

section BadNames

variable (hinterval : 0 < params.interval) (hrange : params.range.start < params.range.stop)
  {scope : Scope} (hscope : Scope.expand r.multiValued params.scopedVars = .ok scope)
  {x : TemplateError} (hbad : HasBadName d q.data x)

include hinterval hrange hscope hbad

/-- The first plan of a target whose name is no template cannot be made. -/
theorem madePlans_of_hasBadName :
    ∃ rest, madePlans params scope.namespaces (d, q) = .error (.template x) :: rest := by
  have hsome : scope.namespaces ≠ [] := by
    rw [Scope.namespaces, Ne, List.map_eq_nil_iff]
    exact Scope.combinations_ne_nil hscope
  obtain ⟨dashboard, rest, hsplit⟩ := List.exists_cons_of_ne_nil hsome
  refine ⟨rest.map (planOne params d q), ?_⟩
  rw [madePlans, hsplit, List.map_cons, planOne_of_hasBadName hinterval hrange hbad]

variable (htargets : params.targets = [q]) (hd : r.catalog.get? q.target = some d)

include htargets hd

/-- A target whose name is no template is not planned on its own. -/
theorem plan_of_hasBadName : r.plan params = .error (.template x) := by
  obtain ⟨rest, hfirst⟩ := madePlans_of_hasBadName hinterval hrange hscope hbad
  rw [r.plan_eq params hscope, htargets, r.plansOf_cons params _ hd, hfirst, List.mapM_cons]
  rfl

/-- A target whose name is no template is not answered on its own. -/
theorem query_of_hasBadName (s : σ) :
    r.query store params s = (.error (.template x), s) := by
  obtain ⟨rest, hfirst⟩ := madePlans_of_hasBadName hinterval hrange hscope hbad
  have hknown : ¬ r.AsksUnknownOnly params := by
    rintro ⟨-, hnone⟩
    cases (hnone q (htargets ▸ List.mem_singleton_self q)).symm.trans hd
  have htarget : r.knownTargets [q] = [(d, q)] := by simp [knownTargets, hd]
  -- the first step makes the first plan, which is the one that fails
  rw [r.query_known store params hscope hknown, steps, htargets, htarget, List.flatMap_singleton,
    targetSteps, hfirst, List.map_cons]
  rfl

end BadNames

end Runner

end SeriesQuery
