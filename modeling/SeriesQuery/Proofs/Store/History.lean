import SeriesQuery.Proofs.Catalog.Index
import SeriesQuery.Proofs.Query.Failures
import SeriesQuery.Store.Memory

/-!
# The store in memory over time

Whatever is asked of the store, no collection goes away or loses a document: each call leaves every
collection with its documents at the start, so any number of calls does. A query changes nothing,
and while the store has the collections of a catalog, no query over the catalog misses one.
-/

namespace SeriesQuery

namespace MemoryStore

/-- The store has a collection. -/
def Has (s : MemoryStore) (name : String) : Prop := ∃ docs, Dict.get? s.collections name = some docs

/-- Every collection is still there, and starts with the documents it had. -/
def Grows (before after : MemoryStore) : Prop :=
  ∀ name docs, Dict.get? before.collections name = some docs →
    ∃ now, Dict.get? after.collections name = some now ∧ docs <+: now

/-- A call of the store in use, or a query that is answered from it. -/
inductive Call where
  | create (name : String)
  | insert (name : String) (doc : Json)
  | insertMany (name : String) (docs : List Json)
  | register (text : String) (rows : List Json)
  | query (r : Runner) (params : QueryParams)

/-- The store after a call, whether or not it fails. -/
def Call.apply : Call → MemoryStore → MemoryStore
  | create name, s => s.create name
  | insert name doc, s => (MemoryStore.insert name doc s).2
  | insertMany name docs, s => (MemoryStore.insertMany name docs s).2
  | register text rows, s => s.register text rows
  | query r params, s => (r.query operations params s).2

/-- The store after calls, one after the other. -/
def after (calls : List Call) (s : MemoryStore) : MemoryStore :=
  calls.foldl (fun s call => call.apply s) s

variable {s : MemoryStore} {name : String} {docs : List Json}

/-- Whether the store has a collection is what it is asked for. -/
theorem has_iff : s.Has name ↔ Dict.contains s.collections name = true :=
  Option.isSome_iff_exists.symm

/-- A store that stays as it is has grown. -/
theorem Grows.refl (s : MemoryStore) : s.Grows s := fun _ docs h => ⟨docs, h, List.prefix_rfl⟩

/-- A store that grows twice has grown. -/
theorem Grows.trans {first second third : MemoryStore} (h : first.Grows second)
    (h' : second.Grows third) : first.Grows third := by
  intro name docs hdocs
  obtain ⟨now, hnow, hprefix⟩ := h name docs hdocs
  obtain ⟨later, hlater, hprefix'⟩ := h' name now hnow
  exact ⟨later, hlater, hprefix.trans hprefix'⟩

/-- A store that grows keeps its collections. -/
theorem Grows.has {before after : MemoryStore} (h : before.Grows after) (hname : before.Has name) :
    after.Has name := by
  obtain ⟨docs, hdocs⟩ := hname
  obtain ⟨now, hnow, -⟩ := h name docs hdocs
  exact ⟨now, hnow⟩

/-- A collection that is there is not created anew. -/
theorem create_of_has (h : s.Has name) : s.create name = s := by
  rw [create, if_pos (has_iff.1 h)]

/-- Documents go to the end of their collection. -/
theorem insertMany_of_has {old : List Json} (h : Dict.get? s.collections name = some old) :
    insertMany name docs s = (.ok docs.length,
      { s with collections := Dict.insert s.collections name (old ++ docs) }) := by
  rw [insertMany, h]

/-- Without its collection, documents are refused and the store stays as it is. -/
theorem insertMany_of_not_has (h : ¬ s.Has name) :
    insertMany name docs s = (.error (.unknownCollection name), s) := by
  have hnone : Dict.get? s.collections name = none := by
    rw [Option.eq_none_iff_forall_ne_some]
    exact fun docs hdocs => h ⟨docs, hdocs⟩
  rw [insertMany, hnone]

/-- One document is inserted as several are. -/
theorem insert_eq (s : MemoryStore) (name : String) (doc : Json) :
    insert name doc s =
      ((insertMany name [doc] s).1.map fun _ => (), (insertMany name [doc] s).2) := by
  rw [insert, Effect.bind_apply]
  rcases insertMany name [doc] s with ⟨_ | _, _⟩ <;> rfl

/-- Documents that are refused change nothing. -/
theorem insertMany_error {e : StoreError} (h : (insertMany name docs s).1 = .error e) :
    (insertMany name docs s).2 = s := by
  by_cases hname : s.Has name
  · obtain ⟨old, hold⟩ := hname
    rw [insertMany_of_has hold] at h
    cases h
  · rw [insertMany_of_not_has hname]

/-- A document that is refused changes nothing. -/
theorem insert_error {doc : Json} {e : StoreError} (h : (insert name doc s).1 = .error e) :
    (insert name doc s).2 = s := by
  rw [insert_eq] at h ⊢
  cases hresult : (insertMany name [doc] s).1 with
  | ok n =>
      rw [hresult] at h
      cases h
  | error e => exact insertMany_error hresult

/-- A collection that is bound to its documents with more at their end has grown. -/
theorem grows_insert {old : List Json} (h : ∀ docs, Dict.get? s.collections name = some docs →
    docs <+: old) : s.Grows { s with collections := Dict.insert s.collections name old } := by
  intro other docs hdocs
  by_cases hother : name = other
  · subst hother
    exact ⟨old, by rw [Dict.get?_insert, if_pos rfl], h docs hdocs⟩
  · exact ⟨docs, by rw [Dict.get?_insert, if_neg hother, hdocs], List.prefix_rfl⟩

/-- Inserting documents makes a collection grow. -/
theorem grows_insertMany (s : MemoryStore) (name : String) (docs : List Json) :
    s.Grows (insertMany name docs s).2 := by
  by_cases hname : s.Has name
  · obtain ⟨old, hold⟩ := hname
    rw [insertMany_of_has hold]
    refine grows_insert fun docs hdocs => ?_
    obtain rfl : old = docs := Option.some.inj (hold.symm.trans hdocs)
    exact List.prefix_append _ _
  · rw [insertMany_of_not_has hname]
    exact Grows.refl s

section Queries

variable (r : Runner) (params : QueryParams)

/-- Running a plan gives the rows of its execution, or the reason why there are none. -/
theorem outcome_run (p : PlannedTarget) (s : MemoryStore) :
    (QueryStep.run (.ok p)).outcome operations s =
      (((s.execute p.plan).mapError QueryError.store).map fun rows => some ⟨p, rows⟩, s) := by
  have hexecute : operations.execute p.plan s = (s.execute p.plan, s) := rfl
  rw [QueryStep.outcome, hexecute]
  cases s.execute p.plan <;> rfl

/-- No step of a query changes the store. -/
theorem outcome_state (step : QueryStep) (s : MemoryStore) : (step.outcome operations s).2 = s := by
  rcases step with made | e | p
  · rfl
  · rfl
  · rw [outcome_run]

/-- Each step of a query is taken in the same state. -/
theorem outcomes_eq (steps : List QueryStep) (s : MemoryStore) :
    outcomes operations steps s = steps.map fun step => step.outcome operations s := by
  induction steps with
  | nil => rfl
  | cons step steps ih => rw [outcomes, outcome_state, ih, List.map_cons]

section Scope

variable {scope : Scope} (hscope : Scope.expand r.multiValued params.scopedVars = .ok scope)

include hscope

/-- A query changes nothing, and it fails for its unknown targets or with one of its steps. -/
theorem query_cases_of_expand (s : MemoryStore) :
    (r.query operations params s).2 = s ∧
    ∀ e, (r.query operations params s).1 = .error e →
      (∃ names, e = .unknownTarget names) ∨
      ∃ step ∈ r.steps params scope.namespaces, (step.outcome operations s).1 = .error e := by
  by_cases hasked : r.AsksUnknownOnly params
  · rw [r.query_unknown operations params hscope hasked]
    refine ⟨rfl, fun e he => ?_⟩
    cases he
    exact .inl ⟨_, rfl⟩
  · rw [r.query_known operations params hscope hasked, perform, outcomes_eq]
    generalize r.steps params scope.namespaces = steps
    rcases conclusion_cases s (steps.map fun step => step.outcome operations s) with
      ⟨e, after, hmem, hconclusion⟩ | ⟨xs, hconclusion⟩
    · -- the state of the failure is the one that its step was taken in
      obtain ⟨step, hstep, houtcome⟩ := List.mem_map.1 hmem
      obtain rfl : s = after := (outcome_state step s).symm.trans (congrArg Prod.snd houtcome)
      rw [hconclusion]
      refine ⟨rfl, fun e' he' => .inr ⟨step, hstep, ?_⟩⟩
      cases he'
      rw [houtcome]
    · rw [hconclusion]
      refine ⟨?_, fun e he => by cases he⟩
      cases hlast : (steps.map fun step => step.outcome operations s).getLast? with
      | none => rfl
      | some result =>
          obtain ⟨step, -, rfl⟩ := List.mem_map.1 (List.mem_of_getLast? hlast)
          exact outcome_state step s

end Scope

/-- A query changes nothing, and it fails because it is broken off, for its unknown targets or with
one of its steps. -/
theorem query_cases (s : MemoryStore) :
    (r.query operations params s).2 = s ∧
    ∀ e, (r.query operations params s).1 = .error e →
      (∃ o, e = .overflow o) ∨ (∃ names, e = .unknownTarget names) ∨
      ∃ scope step, Scope.expand r.multiValued params.scopedVars = .ok scope ∧
        step ∈ r.steps params scope.namespaces ∧ (step.outcome operations s).1 = .error e := by
  cases hscope : Scope.expand r.multiValued params.scopedVars with
  | error o =>
      rw [r.query_overflow operations params hscope]
      refine ⟨rfl, fun e he => ?_⟩
      cases he
      exact .inl ⟨o, rfl⟩
  | ok scope =>
      obtain ⟨hstate, herror⟩ := query_cases_of_expand r params hscope s
      refine ⟨hstate, fun e he => .inr ?_⟩
      rcases herror e he with hnames | ⟨step, hstep, houtcome⟩
      · exact .inl hnames
      · exact .inr ⟨scope, step, rfl, hstep, houtcome⟩

/-- A plan whose collection is there does not miss it. -/
theorem execute_of_has {p : Plan} (h : s.Has p.collection) (name : String) :
    s.execute p ≠ .error (.unknownCollection name) := by
  obtain ⟨docs, hdocs⟩ := h
  rw [execute]
  cases PlanExprs.ofPlan p with
  | error e => simp
  | ok e => simp [hdocs]

/-- While the collections of the catalog are there, no step of a query misses one. -/
theorem outcome_of_has {scope : Scope}
    (hscope : Scope.expand r.multiValued params.scopedVars = .ok scope) {step : QueryStep}
    (hstep : step ∈ r.steps params scope.namespaces)
    (h : ∀ d ∈ r.catalog.definitions, s.Has d.collection) (name : String) :
    (step.outcome operations s).1 ≠ .error (.store (.unknownCollection name)) := by
  obtain ⟨d, q, dashboard, hasked, -, hmade⟩ := Runner.exists_of_mem_steps hscope hstep
  cases hplan : Runner.planOne params d q dashboard with
  | error e =>
      rw [hplan] at hmade
      have he := planOne_error hplan (.unknownCollection name)
      rcases hmade with rfl | rfl <;> exact fun herror => he (Except.error.inj herror)
  | ok p =>
      rw [hplan] at hmade
      rcases hmade with rfl | rfl
      · exact fun herror => nomatch herror
      · -- the collection of the plan is that of its target, whatever the request brings
        have hcollection : s.Has p.plan.collection := by
          rw [compile_collection (planOne_compile hplan)]
          exact h d (Catalog.mem_definitions_of_get? hasked.get?)
        have hexecute := execute_of_has hcollection name
        rw [outcome_run]
        cases hresult : s.execute p.plan with
        | ok rows => exact fun herror => nomatch herror
        | error e =>
            intro herror
            cases herror
            exact hexecute hresult

/-- While the collections of the catalog are there, no query over it misses one. -/
theorem query_of_has (h : ∀ d ∈ r.catalog.definitions, s.Has d.collection) (name : String) :
    (r.query operations params s).1 ≠ .error (.store (.unknownCollection name)) := by
  intro herror
  rcases (query_cases r params s).2 _ herror with
    ⟨o, ho⟩ | ⟨names, hnames⟩ | ⟨scope, step, hscope, hstep, houtcome⟩
  · cases ho
  · cases hnames
  · exact outcome_of_has r params hscope hstep h name houtcome

end Queries

/-- Every call leaves a store that has grown. -/
theorem grows_apply (call : Call) (s : MemoryStore) : s.Grows (call.apply s) := by
  cases call with
  | create name =>
      rw [Call.apply, create]
      split
      · exact Grows.refl s
      · next hnew =>
          refine grows_insert fun docs hdocs => ?_
          exact absurd (has_iff.1 ⟨docs, hdocs⟩) hnew
  | insert name doc =>
      rw [Call.apply, insert_eq]
      exact grows_insertMany s name [doc]
  | insertMany name docs => exact grows_insertMany s name docs
  | register text rows => exact Grows.refl s
  | query r params =>
      rw [Call.apply, (query_cases r params s).1]
      exact Grows.refl s

/-- Any number of calls leaves a store that has grown. -/
theorem grows_after (calls : List Call) (s : MemoryStore) : s.Grows (after calls s) := by
  induction calls generalizing s with
  | nil => exact Grows.refl s
  | cons call calls ih => exact (grows_apply call s).trans (ih (call.apply s))

/-- Calls come one after the other. -/
theorem after_append (calls later : List Call) (s : MemoryStore) :
    after (calls ++ later) s = after later (after calls s) :=
  List.foldl_append

end MemoryStore

end SeriesQuery
