import SeriesQuery.Query.Runner

/-!
# What a plan is compiled from

A plan reads the collection of its target, which no request changes, and its filter is the rendered
filter of the target. Only the range, the width of buckets and templates of the request can keep a
plan from being made.
-/

namespace SeriesQuery

variable {d : Definition} {bindings : Fields} {range : TimeRange} {interval : Int64} {shape : Shape}
  {plan : Plan} {params : QueryParams} {q : TargetQuery} {dashboard : Fields}

/-- The plan of a target over a sound range: all its templates rendered. -/
def renderedPlan (d : Definition) (bindings : Fields) (range : TimeRange) (interval : Int64)
    (shape : Shape) : Plan where
  target := d.name
  collection := d.collection
  filter := Text.nonBlank? (d.filter.map (·.render bindings))
  date := renderSource d.date bindings
  value := renderSource d.value bindings
  aggregation := d.aggregation
  interval
  range
  shape
  dateName := d.dateName.render bindings
  valueName := d.valueName.render bindings
  displayName := d.displayName.map (·.render bindings)

/-- The range between the bounds of a range is this range. -/
theorem TimeRange.ofBounds?_self {sound : TimeRange}
    (h : TimeRange.ofBounds? range.start range.stop = some sound) : sound = range := by
  rw [TimeRange.ofBounds?] at h
  split at h
  · cases h
    rfl
  · cases h

/-- Compiling fails for the width of buckets or for the range, or else renders all templates of the
target. -/
theorem compile_cases (d : Definition) (bindings : Fields) (range : TimeRange) (interval : Int64)
    (shape : Shape) :
    compile d bindings range interval shape = .error (.invalidInterval interval) ∨
    compile d bindings range interval shape = .error (.invalidRange range.start range.stop) ∨
    compile d bindings range interval shape = .ok (renderedPlan d bindings range interval shape) := by
  rw [compile]
  split
  · exact .inl rfl
  · split
    · exact .inr (.inl rfl)
    · next sound hrange =>
        obtain rfl := TimeRange.ofBounds?_self hrange
        exact .inr (.inr rfl)

/-- What does not compile is refused for its width of buckets or for its range. -/
theorem compile_error {e : QueryError}
    (h : compile d bindings range interval shape = .error e) :
    e = .invalidInterval interval ∨ e = .invalidRange range.start range.stop := by
  rcases compile_cases d bindings range interval shape with hwidth | hrange | hok
  · cases hwidth.symm.trans h
    exact .inl rfl
  · cases hrange.symm.trans h
    exact .inr rfl
  · cases hok.symm.trans h

/-- A compiled plan is the rendered one. -/
theorem compile_ok (h : compile d bindings range interval shape = .ok plan) :
    plan = renderedPlan d bindings range interval shape := by
  rcases compile_cases d bindings range interval shape with hfail | hfail | hok
  · cases hfail.symm.trans h
  · cases hfail.symm.trans h
  · exact Except.ok.inj (h.symm.trans hok)

/-- The collection of a compiled plan is the collection of its target. -/
theorem compile_collection (h : compile d bindings range interval shape = .ok plan) :
    plan.collection = d.collection := by
  rw [compile_ok h]
  rfl

/-- The filter of a compiled plan is the rendered filter of its target, trimmed. -/
theorem compile_filter (h : compile d bindings range interval shape = .ok plan) :
    plan.filter = Text.nonBlank? (d.filter.map (·.render bindings)) := by
  rw [compile_ok h]
  rfl

/-- The name that a request or a target has for what is shown is no template. -/
def Runner.HasBadName (d : Definition) (requestData : Option Fields) (e : TemplateError) : Prop :=
  ∃ source, Runner.boundName? d requestData = some source ∧ Template.parse source = .error e

/-- The name that is shown is missing only where it is to be made from what is no template. -/
theorem Runner.displayName_error_iff {requestData : Option Fields} {e : TemplateError} :
    Runner.displayName d requestData plan bindings = .error e ↔
      Runner.HasBadName d requestData e := by
  unfold Runner.displayName Runner.HasBadName
  cases Runner.boundName? d requestData with
  | none => simp
  | some source =>
      simp only [Template.fill, Option.some.injEq, exists_eq_left']
      cases Template.parse source <;> simp [Except.map]

/-- A plan is not made where it does not compile or where its name is no template; a plan that is
made keeps the bindings that it was compiled with. -/
theorem planOne_cases (params : QueryParams) (d : Definition) (q : TargetQuery)
    (dashboard : Fields) :
    (∃ e, compile d (layerBindings d q.data dashboard) params.range params.interval q.shape =
        .error e ∧ Runner.planOne params d q dashboard = .error e) ∨
    (∃ e, Runner.HasBadName d q.data e ∧
      Runner.planOne params d q dashboard = .error (.template e)) ∨
    (∀ e, ¬ Runner.HasBadName d q.data e) ∧
      ∃ p, (compile d (layerBindings d q.data dashboard) params.range params.interval q.shape =
          .ok p.plan ∧ p.origin.bindings = layerBindings d q.data dashboard) ∧
        Runner.planOne params d q dashboard = .ok p := by
  simp only [Runner.planOne]
  cases hplan :
      compile d (layerBindings d q.data dashboard) params.range params.interval q.shape with
  | error e => exact .inl ⟨e, rfl, rfl⟩
  | ok plan =>
      simp only [bind, Except.bind]
      cases hname : Runner.displayName d q.data plan (layerBindings d q.data dashboard) with
      | error e => exact .inr (.inl ⟨e, Runner.displayName_error_iff.1 hname, rfl⟩)
      | ok name =>
          refine .inr (.inr ⟨fun e hbad => ?_, _, ⟨rfl, rfl⟩, rfl⟩)
          cases hname.symm.trans (Runner.displayName_error_iff.2 hbad)

/-- The plan of a target is compiled with its layered bindings, which are kept with it. -/
theorem planOne_ok {p : PlannedTarget} (h : Runner.planOne params d q dashboard = .ok p) :
    compile d (layerBindings d q.data dashboard) params.range params.interval q.shape =
      .ok p.plan ∧ p.origin.bindings = layerBindings d q.data dashboard := by
  rcases planOne_cases params d q dashboard with
    ⟨e, -, hfail⟩ | ⟨e, -, hfail⟩ | ⟨-, p', hplan, hok⟩
  · cases hfail.symm.trans h
  · cases hfail.symm.trans h
  · cases hok.symm.trans h
    exact hplan

/-- The plan of a target is compiled with its layered bindings. -/
theorem planOne_compile {p : PlannedTarget} (h : Runner.planOne params d q dashboard = .ok p) :
    compile d (layerBindings d q.data dashboard) params.range params.interval q.shape =
      .ok p.plan :=
  (planOne_ok h).1

/-- No store is asked for a plan, so none is the reason why there is no plan. -/
theorem planOne_error {e : QueryError} (h : Runner.planOne params d q dashboard = .error e)
    (x : StoreError) : e ≠ .store x := by
  rcases planOne_cases params d q dashboard with
    ⟨e', hplan, hfail⟩ | ⟨e', -, hfail⟩ | ⟨-, p, -, hok⟩
  · cases hfail.symm.trans h
    rcases compile_error hplan with rfl | rfl <;> simp
  · cases hfail.symm.trans h
    simp
  · cases hok.symm.trans h

end SeriesQuery
