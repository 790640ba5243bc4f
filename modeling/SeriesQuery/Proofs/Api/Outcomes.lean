import SeriesQuery.Api
import SeriesQuery.Proofs.Query.Failures

/-!
# What a posted query is answered with

A request whose width of buckets or range is not valid is refused before any target is looked at, so
the check of both in `compile` refuses nothing any more. Of the other requests the steps decide: the
answer is that of the first step that failed, and where none did, the responses. A request is broken
off, and not answered at all, where a bound that is relative to the present overflows or where no
word can count the choices of its variables. `query_outcomes` puts the classes of answers together.
-/

namespace SeriesQuery

/-! ### Requests -/

/-- An error that is answered: anything but an overflow. -/
def RequestError.IsReported (e : RequestError) : Prop := ∀ o, e ≠ .overflow o

/-- What keeps a request from being a query. The end of the range is read if its start is one. -/
inductive QueryRequest.Invalid (now : Int64) (r : QueryRequest) : Prop
  /-- There is no width of buckets. -/
  | noInterval (h : r.interval = none)
  /-- The width is not positive. -/
  | badInterval {width : Int64} (h : r.interval = some width) (hwidth : width ≤ 0)
  /-- The start of the range is no point in time. -/
  | badStart {e : RequestError} (h : r.start.resolve now = .error e) (he : e.IsReported)
  /-- The end of the range is no point in time. -/
  | badStop {start : Int64} {e : RequestError} (hstart : r.start.resolve now = .ok start)
      (h : r.stop.resolve now = .error e) (he : e.IsReported)
  /-- The range does not start before it ends. -/
  | badRange {start stop : Int64} (hstart : r.start.resolve now = .ok start)
      (hstop : r.stop.resolve now = .ok stop) (h : stop ≤ start)

/-- With a positive width of buckets, the first bound of the range that is no point in time is one
whose computation overflows. -/
inductive QueryRequest.Overflows (now : Int64) (r : QueryRequest) : Prop
  /-- The start of the range overflows. -/
  | start {width : Int64} {o : Overflow} (hinterval : r.interval = some width) (hwidth : 0 < width)
      (h : r.start.resolve now = .error (.overflow o))
  /-- The end of the range overflows. -/
  | stop {width start : Int64} {o : Overflow} (hinterval : r.interval = some width)
      (hwidth : 0 < width) (hstart : r.start.resolve now = .ok start)
      (h : r.stop.resolve now = .error (.overflow o))

/-- The query that a request asks for. -/
structure QueryRequest.AsksFor (now : Int64) (r : QueryRequest) (params : QueryParams) : Prop where
  interval_eq : r.interval = some params.interval
  interval_pos : 0 < params.interval
  start_eq : r.start.resolve now = .ok params.range.start
  stop_eq : r.stop.resolve now = .ok params.range.stop
  start_lt_stop : params.range.start < params.range.stop
  targets_eq : params.targets = r.targets
  scopedVars_eq : params.scopedVars = r.scopedVars

/-- What asks for a query is not invalid. -/
theorem QueryRequest.AsksFor.not_invalid {now : Int64} {r : QueryRequest} {params : QueryParams}
    (h : r.AsksFor now params) : ¬ r.Invalid now := by
  intro hinvalid
  cases hinvalid with
  | noInterval hnone => cases hnone.symm.trans h.interval_eq
  | badInterval hsome hwidth =>
      cases hsome.symm.trans h.interval_eq
      exact Int64.not_le.2 h.interval_pos hwidth
  | badStart herror => cases herror.symm.trans h.start_eq
  | badStop _ herror => cases herror.symm.trans h.stop_eq
  | badRange hstart hstop hle =>
      cases hstart.symm.trans h.start_eq
      cases hstop.symm.trans h.stop_eq
      exact Int64.not_le.2 h.start_lt_stop hle

/-- What asks for a query does not overflow. -/
theorem QueryRequest.AsksFor.not_overflows {now : Int64} {r : QueryRequest} {params : QueryParams}
    (h : r.AsksFor now params) : ¬ r.Overflows now := by
  intro hoverflows
  cases hoverflows with
  | start _ _ herror => cases herror.symm.trans h.start_eq
  | stop _ _ _ herror => cases herror.symm.trans h.stop_eq

/-- What overflows is not invalid. -/
theorem QueryRequest.Overflows.not_invalid {now : Int64} {r : QueryRequest}
    (h : r.Overflows now) : ¬ r.Invalid now := by
  intro hinvalid
  cases h with
  | start hinterval hwidth hstart =>
      cases hinvalid with
      | noInterval hnone => cases hnone.symm.trans hinterval
      | badInterval hsome hle =>
          cases hsome.symm.trans hinterval
          exact Int64.not_le.2 hwidth hle
      | badStart herror he =>
          cases herror.symm.trans hstart
          exact he _ rfl
      | badStop hok => cases hok.symm.trans hstart
      | badRange hok => cases hok.symm.trans hstart
  | stop hinterval hwidth hstart hstop =>
      cases hinvalid with
      | noInterval hnone => cases hnone.symm.trans hinterval
      | badInterval hsome hle =>
          cases hsome.symm.trans hinterval
          exact Int64.not_le.2 hwidth hle
      | badStart herror => cases herror.symm.trans hstart
      | badStop _ herror he =>
          cases herror.symm.trans hstop
          exact he _ rfl
      | badRange _ hok => cases hok.symm.trans hstop

/-- With a positive width of buckets, the bounds of the range decide. -/
theorem QueryRequest.toParams_of_interval {now : Int64} {r : QueryRequest} {width : Int64}
    (h : r.interval = some width) (hwidth : 0 < width) :
    r.toParams now = (do
      let start ← r.start.resolve now
      let stop ← r.stop.resolve now
      match TimeRange.ofBounds? start stop with
      | some range => return ⟨range, width, r.targets, r.scopedVars⟩
      | none => throw .badRange) := by
  unfold QueryRequest.toParams
  rw [h]
  show (if 0 < width then (pure width : Except RequestError Int64) >>= _ else _) = _
  rw [if_pos hwidth]
  rfl

/-- With bounds of the range too, their order decides. -/
theorem QueryRequest.toParams_of_bounds {now : Int64} {r : QueryRequest} {width start stop : Int64}
    (h : r.interval = some width) (hwidth : 0 < width) (hstart : r.start.resolve now = .ok start)
    (hstop : r.stop.resolve now = .ok stop) :
    r.toParams now =
      if start < stop then .ok ⟨⟨start, stop⟩, width, r.targets, r.scopedVars⟩
      else .error .badRange := by
  rw [QueryRequest.toParams_of_interval h hwidth, hstart, hstop]
  simp only [bind, Except.bind, TimeRange.ofBounds?]
  by_cases hlt : start < stop
  · rw [if_pos hlt, if_pos hlt]
    rfl
  · rw [if_neg hlt, if_neg hlt]
    rfl

/-- Without a positive width of buckets there is no query. -/
theorem QueryRequest.toParams_of_not_pos {now : Int64} {r : QueryRequest}
    (h : ∀ width, r.interval = some width → width ≤ 0) :
    ∃ e, r.toParams now = .error e ∧ e.IsReported := by
  unfold QueryRequest.toParams
  cases hinterval : r.interval with
  | none => exact ⟨.noInterval, rfl, fun _ h => nomatch h⟩
  | some width =>
      have hwidth : ¬ 0 < width := Int64.not_lt.2 (h width hinterval)
      simp only [if_neg hwidth]
      exact ⟨.badInterval width, rfl, fun _ h => nomatch h⟩

/-- An error is that of an overflow, or it is reported. -/
theorem RequestError.overflow_or_isReported (e : RequestError) :
    (∃ o, e = .overflow o) ∨ e.IsReported := by
  cases e with
  | overflow o => exact .inl ⟨o, rfl⟩
  | _ => exact .inr fun _ h => nomatch h

/-- A request is invalid, or it overflows, and then there is no query, or it asks for one. -/
theorem QueryRequest.toParams_cases (now : Int64) (r : QueryRequest) :
    (r.Invalid now ∧ ∃ e, r.toParams now = .error e ∧ e.IsReported) ∨
    (r.Overflows now ∧ ∃ o, r.toParams now = .error (.overflow o)) ∨
    ∃ params, r.toParams now = .ok params ∧ r.AsksFor now params := by
  by_cases hinterval : ∀ width, r.interval = some width → width ≤ 0
  · refine .inl ⟨?_, QueryRequest.toParams_of_not_pos hinterval⟩
    cases hsome : r.interval with
    | none => exact .noInterval hsome
    | some width => exact .badInterval hsome (hinterval width hsome)
  · obtain ⟨width, hsome, hle⟩ : ∃ width, r.interval = some width ∧ ¬ width ≤ 0 := by
      simpa using hinterval
    have hwidth : 0 < width := Int64.not_le.1 hle
    cases hstart : r.start.resolve now with
    | error e =>
        have herror : r.toParams now = .error e := by
          rw [QueryRequest.toParams_of_interval hsome hwidth, hstart]
          rfl
        rcases e.overflow_or_isReported with ⟨o, rfl⟩ | he
        · exact .inr (.inl ⟨.start hsome hwidth hstart, o, herror⟩)
        · exact .inl ⟨.badStart hstart he, e, herror, he⟩
    | ok start =>
        cases hstop : r.stop.resolve now with
        | error e =>
            have herror : r.toParams now = .error e := by
              rw [QueryRequest.toParams_of_interval hsome hwidth, hstart, hstop]
              rfl
            rcases e.overflow_or_isReported with ⟨o, rfl⟩ | he
            · exact .inr (.inl ⟨.stop hsome hwidth hstart hstop, o, herror⟩)
            · exact .inl ⟨.badStop hstart hstop he, e, herror, he⟩
        | ok stop =>
            rw [QueryRequest.toParams_of_bounds hsome hwidth hstart hstop]
            by_cases hlt : start < stop
            · rw [if_pos hlt]
              exact .inr (.inr ⟨_, rfl, hsome, hwidth, hstart, hstop, hlt, rfl, rfl⟩)
            · rw [if_neg hlt]
              exact .inl ⟨.badRange hstart hstop (Int64.not_lt.1 hlt), _, rfl,
                fun _ h => nomatch h⟩

/-! ### Answers -/

/-- The code of the error that an answer reports. -/
def HttpAnswer.errorCode? (a : HttpAnswer) : Option String :=
  let field? (name : String) : Json → Option Json
    | .obj fields => Dict.get? fields name
    | _ => none
  ((a.body.bind (field? "error")).bind (field? "code")).bind Json.asStr?

/-- The answer reports an error under a status and a code. -/
structure HttpAnswer.Reports (a : HttpAnswer) (status : Nat) (code : String) : Prop where
  status_eq : a.status = status
  code_eq : a.errorCode? = some code

/-- An answer reports one status and one code. -/
theorem HttpAnswer.Reports.unique {a : HttpAnswer} {status status' : Nat} {code code' : String}
    (h : a.Reports status code) (h' : a.Reports status' code') :
    status = status' ∧ code = code' :=
  ⟨h.status_eq.symm.trans h'.status_eq, Option.some.inj (h.code_eq.symm.trans h'.code_eq)⟩

namespace Api

variable {σ : Type} {api : Api σ} {occasion : Occasion} {call : HttpCall} {s : σ}

/-- A call that failed is answered with the status and the code of its error. -/
theorem refuse_eq (occasion : Occasion) {e : ApiError} {status : Nat} {code : String}
    (h : e.report? = some (status, code)) :
    ∃ a, refuse occasion e = some a ∧ a.Reports status code := by
  rw [refuse, h]
  exact ⟨_, rfl, rfl, rfl⟩

/-- What is wrong with a request is reported, unless it was broken off. -/
theorem report?_validation {e : RequestError} (h : e.IsReported) :
    (ApiError.validation e).report? = some (400, "VALIDATION_ERROR") := by
  cases e with
  | overflow o => exact absurd rfl (h o)
  | _ => rfl

/-- The answer to a query that has come to a result, unless it was broken off. -/
def queryAnswer (occasion : Occasion) (result : Except QueryError (List TargetResponse)) :
    Option HttpAnswer :=
  match result with
  | .ok responses => some ⟨200, some (.arr (responses.map TargetResponse.toJson))⟩
  | .error e => refuse occasion (.query e)

section Posted

variable {request : QueryRequest} (hmethod : call.method = "POST")
  (hroute : Route.ofPath? call.path = some .query)
  (hbody : api.decodeBody QueryRequest.decode call = .ok request)

include hmethod hroute

/-- A posted query is answered by its route. -/
theorem handle_query :
    api.handle occasion call s = api.handleRoute occasion call s .query := by
  rw [handle, hmethod, if_neg (by decide), hroute]
  rfl

include hbody

/-- A request that is no query is refused or broken off, and nothing happens. -/
theorem handle_refused {e : RequestError} (h : request.toParams occasion.now = .error e) :
    api.handle occasion call s = (refuse occasion (.validation e), s) := by
  have hanswer : api.answerQuery occasion call s = (.error (.validation e), s) := by
    rw [answerQuery, hbody]
    show (Effect.ofExcept ((request.toParams occasion.now).mapError ApiError.validation) >>= _) s =
      _
    rw [h]
    rfl
  rw [handle_query hmethod hroute, handleRoute, hanswer]
  rfl

/-- A request that asks for a query is answered with what the query comes to. -/
theorem handle_valid {params : QueryParams} (h : request.toParams occasion.now = .ok params) :
    api.handle occasion call s =
      (queryAnswer occasion (api.runner.query api.store params s).1,
        (api.runner.query api.store params s).2) := by
  have hanswer : api.answerQuery occasion call s =
      ((api.runner.query api.store params).mapError ApiError.query) s := by
    rw [answerQuery, hbody]
    show (Effect.ofExcept ((request.toParams occasion.now).mapError ApiError.validation) >>= _) s =
      _
    rw [h]
    rfl
  rw [handle_query hmethod hroute, handleRoute, hanswer, Effect.mapError]
  rcases api.runner.query api.store params s with ⟨e | responses, after⟩ <;> rfl

end Posted

/-- An answer with responses reports no error. -/
theorem not_reports_ok {responses : List Json} {status : Nat} {code : String} :
    ¬ HttpAnswer.Reports ⟨200, some (.arr responses)⟩ status code := by
  intro h
  cases h.code_eq

/-- What is known of the answer to a query that asks for something, given the bindings that its
variables are split up into. -/
structure Classified (api : Api σ) (occasion : Occasion) (params : QueryParams)
    (namespaces : List Fields) (s : σ) (a : HttpAnswer) : Prop where
  /-- No target is refused for the width of buckets or for the range. -/
  compiles : ∀ d bindings shape, ∃ plan,
    compile d bindings params.range params.interval shape = .ok plan
  /-- There are three errors, and responses otherwise. -/
  classes : a.Reports 404 "UNKNOWN_TARGET" ∨ a.Reports 400 "TEMPLATE_ERROR" ∨
    a.Reports 502 "STORE_ERROR" ∨ ∃ responses, a = ⟨200, some (.arr responses)⟩
  /-- Targets are unknown if some are asked for and the catalog has none of them. -/
  unknown_iff : a.Reports 404 "UNKNOWN_TARGET" ↔
    params.targets ≠ [] ∧ ∀ q ∈ params.targets, api.runner.catalog.get? q.target = none
  /-- A template is at fault only where a known target has a name that is none. -/
  template : a.Reports 400 "TEMPLATE_ERROR" →
    ∃ d q e, api.runner.Asks params d q ∧ Runner.HasBadName d q.data e
  /-- The store is at fault only where it failed on a plan. -/
  store : a.status = 502 → ∃ e, api.runner.LacksRows api.store params e
  /-- Where nothing is asked for, there is no response. -/
  empty : params.targets = [] → a = ⟨200, some (.arr [])⟩
  /-- The first step that fails is the error. -/
  failed : ¬ api.runner.AsksUnknownOnly params → ∀ e after,
    (outcomes api.store (api.runner.steps params namespaces) s).findSome? Outcome.failure? =
      some (e, after) → some a = refuse occasion (.query e)
  /-- Where no step fails, there are responses. -/
  answered : ¬ api.runner.AsksUnknownOnly params →
    (outcomes api.store (api.runner.steps params namespaces) s).findSome? Outcome.failure? = none →
      ∃ responses, a = ⟨200, some (.arr responses)⟩

/-- No class has the code of a request that is not valid. -/
theorem Classified.not_invalid {params : QueryParams} {namespaces : List Fields} {a : HttpAnswer}
    (h : Classified api occasion params namespaces s a) : ¬ a.Reports 400 "VALIDATION_ERROR" := by
  intro hreports
  rcases h.classes with h | h | h | ⟨responses, rfl⟩
  · exact nomatch (hreports.unique h).2
  · exact nomatch (hreports.unique h).2
  · exact nomatch (hreports.unique h).2
  · exact not_reports_ok hreports

section Valid

variable {params : QueryParams} (hinterval : 0 < params.interval)
  (hrange : params.range.start < params.range.stop) {scope : Scope}
  (api : Api σ) (hscope : Scope.expand api.runner.multiValued params.scopedVars = .ok scope)

include hinterval hrange hscope

/-- What a query can be answered with. -/
theorem answer_cases (occasion : Occasion) (s : σ) :
    ∃ a, queryAnswer occasion (api.runner.query api.store params s).1 = some a ∧
      (api.runner.AsksUnknownOnly params ∧ a.Reports 404 "UNKNOWN_TARGET" ∨
      ¬ api.runner.AsksUnknownOnly params ∧
        ((a.Reports 400 "TEMPLATE_ERROR" ∧
          ∃ d q x, api.runner.Asks params d q ∧ Runner.HasBadName d q.data x) ∨
        (a.Reports 502 "STORE_ERROR" ∧ ∃ x, api.runner.LacksRows api.store params x) ∨
        ∃ responses, a = ⟨200, some (.arr responses)⟩)) := by
  by_cases hasked : api.runner.AsksUnknownOnly params
  · rw [api.runner.query_unknown api.store params hscope hasked]
    obtain ⟨a, ha, hreports⟩ := refuse_eq occasion (e := .query (.unknownTarget _)) rfl
    exact ⟨a, ha, .inl ⟨hasked, hreports⟩⟩
  · cases hresult : (api.runner.query api.store params s).1 with
    | ok responses => exact ⟨_, rfl, .inr ⟨hasked, .inr (.inr ⟨_, rfl⟩)⟩⟩
    | error e =>
        rcases Runner.query_error hresult with
          ⟨o, hoverflow, -⟩ | ⟨hunknown, -⟩ | hplan | ⟨x, rfl, hrows⟩
        · cases hscope.symm.trans hoverflow
        · exact absurd hunknown hasked
        · obtain ⟨x, d, q, rfl, hask, hbad⟩ := hplan.hasBadName hinterval hrange
          obtain ⟨a, ha, hreports⟩ := refuse_eq occasion (e := .query (.template x)) rfl
          exact ⟨a, ha, .inr ⟨hasked, .inl ⟨hreports, d, q, x, hask, hbad⟩⟩⟩
        · obtain ⟨a, ha, hreports⟩ := refuse_eq occasion (e := .query (.store x)) rfl
          exact ⟨a, ha, .inr ⟨hasked, .inr (.inl ⟨hreports, x, hrows⟩)⟩⟩

/-- A query that asks for something is answered, and its answer is one of its classes. -/
theorem exists_classified (occasion : Occasion) (s : σ) :
    ∃ a, queryAnswer occasion (api.runner.query api.store params s).1 = some a ∧
      Classified api occasion params scope.namespaces s a := by
  obtain ⟨a, ha, hcases⟩ := answer_cases hinterval hrange api hscope occasion s
  refine ⟨a, ha, ?_⟩
  exact
    { compiles := compile_valid hinterval hrange
      classes := by
        rcases hcases with ⟨-, h⟩ | ⟨-, ⟨h, -⟩ | ⟨h, -⟩ | h⟩
        · exact .inl h
        · exact .inr (.inl h)
        · exact .inr (.inr (.inl h))
        · exact .inr (.inr (.inr h))
      unknown_iff := by
        show _ ↔ api.runner.AsksUnknownOnly params
        rcases hcases with ⟨hasked, h⟩ | ⟨hasked, ⟨h, -⟩ | ⟨h, -⟩ | ⟨responses, rfl⟩⟩
        · exact ⟨fun _ => hasked, fun _ => h⟩
        · exact ⟨fun h' => (nomatch (h.unique h').1), fun h' => absurd h' hasked⟩
        · exact ⟨fun h' => (nomatch (h.unique h').1), fun h' => absurd h' hasked⟩
        · exact ⟨fun h' => absurd h' not_reports_ok, fun h' => absurd h' hasked⟩
      template := by
        intro h'
        rcases hcases with ⟨-, h⟩ | ⟨-, ⟨-, hbad⟩ | ⟨h, -⟩ | ⟨responses, rfl⟩⟩
        · exact nomatch (h.unique h').1
        · exact hbad
        · exact nomatch (h.unique h').1
        · exact absurd h' not_reports_ok
      store := by
        intro hstatus
        rcases hcases with ⟨-, h⟩ | ⟨-, ⟨h, -⟩ | ⟨-, hrows⟩ | ⟨responses, rfl⟩⟩
        · exact nomatch h.status_eq.symm.trans hstatus
        · exact nomatch h.status_eq.symm.trans hstatus
        · exact hrows
        · cases hstatus
      empty := by
        intro htargets
        have hknown : ¬ api.runner.AsksUnknownOnly params := fun hasked => hasked.1 htargets
        rw [api.runner.query_known api.store params hscope hknown, Runner.steps, htargets] at ha
        exact (Option.some.inj ha).symm
      failed := by
        intro hknown e after hfirst
        rw [api.runner.query_known api.store params hscope hknown, perform, conclusion,
          hfirst] at ha
        exact ha.symm
      answered := by
        intro hknown hnone
        rw [api.runner.query_known api.store params hscope hknown, perform, conclusion, hnone] at ha
        exact ⟨_, (Option.some.inj ha).symm⟩ }

end Valid

/-- Where the variables of a query cannot be split up, it is not answered. -/
theorem queryAnswer_of_expand (api : Api σ) {params : QueryParams} {o : Overflow}
    (h : Scope.expand api.runner.multiValued params.scopedVars = .error o) (occasion : Occasion)
    (s : σ) : queryAnswer occasion (api.runner.query api.store params s).1 = none ∧
      (api.runner.query api.store params s).2 = s := by
  rw [api.runner.query_overflow api.store params h]
  exact ⟨rfl, rfl⟩

section Asked

variable {request : QueryRequest} {params : QueryParams} (hmethod : call.method = "POST")
  (hroute : Route.ofPath? call.path = some .query)
  (hbody : api.decodeBody QueryRequest.decode call = .ok request)
  (hok : request.toParams occasion.now = .ok params)

include hmethod hroute hbody hok

/-- A posted query is broken off where no word can count the choices of its variables. -/
theorem handle_of_not_fits (hcount : 2 ^ 64 ≤
      ((Scope.selections api.runner.multiValued params.scopedVars).map List.length).prod) :
    api.handle occasion call s = (none, s) := by
  obtain ⟨hanswer, hstate⟩ :=
    queryAnswer_of_expand api (Scope.expand_of_not_fits hcount) occasion s
  rw [handle_valid hmethod hroute hbody hok, hanswer, hstate]

/-- Where a word can, it is answered. -/
theorem handle_of_fits (hasks : request.AsksFor occasion.now params)
    (hcount : ((Scope.selections api.runner.multiValued params.scopedVars).map List.length).prod <
      2 ^ 64) :
    ∃ scope a, Scope.expand api.runner.multiValued params.scopedVars = .ok scope ∧
      (api.handle occasion call s).1 = some a ∧
      Classified api occasion params scope.namespaces s a := by
  have hscope := Scope.expand_of_fits hcount
  obtain ⟨a, ha, hclassified⟩ :=
    exists_classified hasks.interval_pos hasks.start_lt_stop api hscope occasion s
  refine ⟨_, a, hscope, ?_, hclassified⟩
  rw [handle_valid hmethod hroute hbody hok, ha]

end Asked

/-- A posted query with a body that can be read is refused as invalid if and only if its width of
buckets or its range is. It is broken off, without an answer and without anything being asked for,
where a bound of its range overflows. Otherwise it asks for a query: that is broken off too if no
word can count the choices of its variables, and if a word can, the answer is known by its class. -/
theorem query_outcomes {request : QueryRequest} (hmethod : call.method = "POST")
    (hroute : Route.ofPath? call.path = some .query)
    (hbody : api.decodeBody QueryRequest.decode call = .ok request) (occasion : Occasion) (s : σ) :
    ((∃ a, (api.handle occasion call s).1 = some a ∧ a.Reports 400 "VALIDATION_ERROR") ↔
      request.Invalid occasion.now) ∧
    (request.Overflows occasion.now → api.handle occasion call s = (none, s)) ∧
    (¬ request.Invalid occasion.now → ¬ request.Overflows occasion.now →
      ∃ params, request.AsksFor occasion.now params ∧
        let declared := api.runner.multiValued
        (2 ^ 64 ≤ ((Scope.selections declared params.scopedVars).map List.length).prod →
          api.handle occasion call s = (none, s)) ∧
        (((Scope.selections declared params.scopedVars).map List.length).prod < 2 ^ 64 →
          ∃ scope a, Scope.expand declared params.scopedVars = .ok scope ∧
            (api.handle occasion call s).1 = some a ∧
            Classified api occasion params scope.namespaces s a)) := by
  rcases request.toParams_cases occasion.now with
    ⟨hinvalid, e, herror, he⟩ | ⟨hoverflows, o, herror⟩ | ⟨params, hok, hasks⟩
  · rw [handle_refused hmethod hroute hbody herror]
    obtain ⟨a, ha, hreports⟩ := refuse_eq occasion (report?_validation he)
    exact ⟨⟨fun _ => hinvalid, fun _ => ⟨a, ha, hreports⟩⟩,
      fun hoverflows => absurd hinvalid hoverflows.not_invalid,
      fun hvalid => absurd hinvalid hvalid⟩
  · rw [handle_refused hmethod hroute hbody herror]
    refine ⟨⟨?_, fun hinvalid => absurd hinvalid hoverflows.not_invalid⟩, fun _ => rfl,
      fun _ hnone => absurd hoverflows hnone⟩
    rintro ⟨a, ha, -⟩
    cases ha
  · refine ⟨⟨?_, fun hinvalid => absurd hinvalid hasks.not_invalid⟩,
      fun hoverflows => absurd hoverflows hasks.not_overflows,
      fun _ _ => ⟨params, hasks, handle_of_not_fits hmethod hroute hbody hok,
        handle_of_fits hmethod hroute hbody hok hasks⟩⟩
    rintro ⟨a, ha, hreports⟩
    exfalso
    rcases Nat.lt_or_ge ((Scope.selections api.runner.multiValued params.scopedVars).map
      List.length).prod (2 ^ 64) with hcount | hcount
    · obtain ⟨_, b, -, hb, hclassified⟩ :=
        handle_of_fits (s := s) hmethod hroute hbody hok hasks hcount
      cases ha.symm.trans hb
      exact hclassified.not_invalid hreports
    · rw [handle_of_not_fits hmethod hroute hbody hok hcount] at ha
      cases ha

/-- Settings with one target. -/
def cpuSettings : Datasource :=
  { Datasource.default with
    target := "cpu"
    collection := "cpu"
    aggregation := some "NONE" }

/-- A store that never answers. -/
def silentStore : DocumentStore Unit where
  name := "silent"
  ping _ := (.error .timeout, ())
  hasCollection _ _ := (.error .timeout, ())
  execute _ _ := (.error .timeout, ())
  runText _ _ := (.error .timeout, ())

/-- A service for this target over this store. -/
def cpuApi : Api Unit where
  runner := Runner.ofDatasource cpuSettings
    ((Catalog.expand cpuSettings).toOption.getD Catalog.empty)
  store := silentStore
  maxBody := defaultMaxBody

/-- A call that asks this service for an unknown target and for its own. -/
def cpuCall : HttpCall where
  method := "POST"
  path := "/query"
  contentType := some "application/json"
  body := "\x7b\"intervalMs\":60000,\"range\":\x7b\"from\":\"1970-01-01\",\"to\":60000\x7d," ++
    "\"targets\":[\x7b\"target\":\"mem\"\x7d,\x7b\"target\":\"cpu\"\x7d]\x7d"

/-- A body that is read as a query asks for it. -/
theorem exists_asksFor (api : Api σ) (call : HttpCall) (now : Int64) (p : QueryParams → Bool)
    (h : (api.decodeBody QueryRequest.decode call).toOption.any (fun request =>
      (request.toParams now).toOption.any p) = true) :
    ∃ request params, api.decodeBody QueryRequest.decode call = .ok request ∧
      request.AsksFor now params ∧ p params = true := by
  obtain ⟨request, hbody, hrequest⟩ := exists_of_toOption_any h
  obtain ⟨params, hparams, hp⟩ := exists_of_toOption_any hrequest
  rcases request.toParams_cases now with ⟨-, e, herror, -⟩ | ⟨-, o, herror⟩ | ⟨params', hok, hasks⟩
  · cases herror.symm.trans hparams
  · cases herror.symm.trans hparams
  · cases hok.symm.trans hparams
    exact ⟨request, params, hbody, hasks, hp⟩

/-- The unknown target is passed over, and for the known one the store is at fault. -/
theorem query_outcomes_store :
    ∃ request params a, cpuApi.decodeBody QueryRequest.decode cpuCall = .ok request ∧
      request.AsksFor 0 params ∧ (cpuApi.handle ⟨0, 0, ""⟩ cpuCall ()).1 = some a ∧
      a.status = 502 ∧ ∃ e, cpuApi.runner.LacksRows cpuApi.store params e := by
  have hstatus : (cpuApi.handle ⟨0, 0, ""⟩ cpuCall ()).1.map HttpAnswer.status = some 502 := by
    decide +kernel
  have hdeclared : cpuApi.runner.multiValued = [] := by decide
  obtain ⟨request, params, hbody, hasks, -⟩ :=
    exists_asksFor cpuApi cpuCall 0 (fun _ => true) (by decide +kernel)
  obtain ⟨-, -, hvalid⟩ := query_outcomes rfl (by decide +kernel) hbody ⟨0, 0, ""⟩ ()
  obtain ⟨params', hasks', -, hanswer⟩ := hvalid hasks.not_invalid hasks.not_overflows
  have hcount : ((Scope.selections cpuApi.runner.multiValued params'.scopedVars).map
      List.length).prod < 2 ^ 64 := by
    rw [hdeclared]
    exact Nat.one_lt_two_pow (by decide)
  obtain ⟨scope, a, -, ha, hclassified⟩ := hanswer hcount
  rw [ha] at hstatus
  have hfailed : a.status = 502 := Option.some.inj hstatus
  exact ⟨request, params', a, hbody, hasks', ha, hfailed, hclassified.store hfailed⟩

/-- The service, with a variable that is declared to have several values sixty-four times. -/
def shardApi : Api Unit :=
  { cpuApi with runner := { cpuApi.runner with multiValued := List.replicate 64 "shard" } }

/-- A call that asks for nothing, with two values for this variable. -/
def shardCall : HttpCall where
  method := "POST"
  path := "/query"
  contentType := some "application/json"
  body := "\x7b\"intervalMs\":1,\"range\":\x7b\"from\":0,\"to\":1\x7d," ++
    "\"scopedVars\":\x7b\"shard\":\x7b\"value\":[0,1]\x7d\x7d\x7d"

/-- A call that asks for nothing before a time that is no word. -/
def earlyCall : HttpCall where
  method := "POST"
  path := "/query"
  contentType := some "application/json"
  body := "\x7b\"intervalMs\":1,\"range\":\x7b\"from\":\"now-18446744073709552s\",\"to\":0\x7d\x7d"

/-- A call that asks for nothing is not answered where the choices of its variables are more than a
word can count, and neither is one where the start of the range is no word. -/
theorem query_outcomes_broken_off :
    (∃ request params, shardApi.decodeBody QueryRequest.decode shardCall = .ok request ∧
      request.AsksFor 0 params ∧ params.targets = [] ∧
      (shardApi.handle ⟨0, 0, ""⟩ shardCall ()).1 = none) ∧
    ∃ request, cpuApi.decodeBody QueryRequest.decode earlyCall = .ok request ∧
      request.Overflows 0 ∧ ¬request.Invalid 0 ∧
      (cpuApi.handle ⟨0, 0, ""⟩ earlyCall ()).1 = none := by
  constructor
  · obtain ⟨request, params, hbody, hasks, hnone⟩ :=
      exists_asksFor shardApi shardCall 0 (fun params => params.targets.isEmpty)
        (by decide +kernel)
    have hanswer : (shardApi.handle ⟨0, 0, ""⟩ shardCall ()).1.isNone = true := by decide +kernel
    exact ⟨request, params, hbody, hasks, List.isEmpty_iff.1 hnone,
      Option.isNone_iff_eq_none.1 hanswer⟩
  · have hread : (cpuApi.decodeBody QueryRequest.decode earlyCall).toOption.any (fun request =>
        (request.toParams 0).toOption.isNone) = true := by decide +kernel
    have hanswer : (cpuApi.handle ⟨0, 0, ""⟩ earlyCall ()).1.isNone = true := by decide +kernel
    obtain ⟨request, hbody, hrequest⟩ := exists_of_toOption_any hread
    have hoverflows : request.Overflows 0 := by
      rcases request.toParams_cases 0 with ⟨-, e, herror, he⟩ | ⟨h, -⟩ | ⟨params, hok, -⟩
      · -- a request that is invalid would be answered
        obtain ⟨a, ha, -⟩ := refuse_eq ⟨0, 0, ""⟩ (report?_validation he)
        have hrefused : cpuApi.handle ⟨0, 0, ""⟩ earlyCall () =
            (refuse ⟨0, 0, ""⟩ (.validation e), ()) :=
          handle_refused rfl (by decide +kernel) hbody herror
        rw [hrefused, ha] at hanswer
        cases hanswer
      · exact h
      · rw [hok] at hrequest
        cases hrequest
    exact ⟨request, hbody, hoverflows, hoverflows.not_invalid, Option.isNone_iff_eq_none.1 hanswer⟩

end Api

end SeriesQuery
