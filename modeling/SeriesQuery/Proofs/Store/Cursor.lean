import Mathlib
import SeriesQuery.Store.Arango
import SeriesQuery.Proofs.Text.Encoding

/-!
# Draining a cursor

A script of answers decides how long a query goes on: over the answers that carry a batch with more
after it, up to the first answer that is the last batch or no such batch at all. What the query
returns and what it sends on the way is told from that division of the script, and every script has
one.
-/

namespace SeriesQuery.Arango

variable {s : ArangoSettings}

/-- A request to the database. -/
def request (s : ArangoSettings) (method path : String) (body : Option Json) : HttpRequest where
  method := method
  url := s.databaseUrl ++ path
  authorization := s.authorization
  body := body

/-- The request that opens a cursor. -/
def openRequest (s : ArangoSettings) (q : BoundQuery) : HttpRequest :=
  request s "POST" "/_api/cursor" (some (queryBody s q))

/-- The request for the next batch of the cursor with a name. -/
def nextRequest (s : ArangoSettings) (id : String) : HttpRequest :=
  request s "PUT" ("/_api/cursor/" ++ Text.percentEncode id) none

/-- A request for a batch names one cursor only. -/
theorem nextRequest_injective (s : ArangoSettings) : Function.Injective (nextRequest s) := by
  intro id id' h
  have hurl : s.databaseUrl ++ ("/_api/cursor/" ++ Text.percentEncode id) =
      s.databaseUrl ++ ("/_api/cursor/" ++ Text.percentEncode id') := congrArg HttpRequest.url h
  rw [String.append_right_inj, String.append_right_inj] at hurl
  exact Text.percentEncode_injective hurl

/-! ### One answer -/

/-- The answer is a success that carries the batch. -/
def IsBatch (o : HttpOutcome) (b : Batch) : Prop :=
  ∃ status body, o = .reply status body ∧ 200 ≤ status ∧ status < 300 ∧
    decodeText decodeBatch body = some b

/-- The answers carry the batches, each of which has more after it under the name that goes with
it. -/
def GoOn (outcomes : List HttpOutcome) (batches : List (Batch × String)) : Prop :=
  List.Forall₂ (fun o p => IsBatch o p.1 ∧ p.1.hasMore = true ∧ p.1.id = some p.2) outcomes batches

/-- What remains of a script begins with an answer to the request that ends the query with an
error. -/
inductive Offends (r : HttpRequest) : List HttpOutcome → StoreError → Prop
  /-- The status is no success; number and reason are those of the answer if it can be read, and the
  reason is the whole answer if not. -/
  | refused {status : Nat} {body : String} {number : Int} {reason : String}
      {rest : List HttpOutcome} (hstatus : ¬(200 ≤ status ∧ status < 300))
      (hread : (decodeText decodeError body).getD (0, body) = (number, reason)) :
      Offends r (.reply status body :: rest) (.api status number reason)
  /-- A success that is no batch. -/
  | unreadable {status : Nat} {body : String} {rest : List HttpOutcome}
      (hstatus : 200 ≤ status ∧ status < 300) (hread : decodeText decodeBatch body = none) :
      Offends r (.reply status body :: rest) (.request "error decoding response body")
  /-- A batch with more after it that does not say where. -/
  | nameless {o : HttpOutcome} {b : Batch} {rest : List HttpOutcome} (ho : IsBatch o b)
      (hmore : b.hasMore = true) (hid : b.id = none) :
      Offends r (o :: rest) (.decode .cursorWithoutId)
  /-- No answer ever. -/
  | silent {rest : List HttpOutcome} : Offends r (.silence :: rest) .timeout
  /-- The connection is closed. -/
  | closed : Offends r [] (.request (Network.failure r Network.closedReason))

/-! ### One step -/

/-- Asks for a batch and for the batches after it. -/
def collect (s : ArangoSettings) (rows : List Json) (method path : String) (body : Option Json) :
    Effect Network StoreError (List Json) := fun n =>
  match askBatch s method path body n with
  | (.ok b, n) => drain s (rows ++ b.rows) b n
  | (.error e, n) => (.error e, n)

/-- A query collects from its first request on. -/
theorem run_eq_collect (s : ArangoSettings) (q : BoundQuery) :
    run s q = collect s [] "POST" "/_api/cursor" (some (queryBody s q)) := rfl

/-- While there are more batches, the next one is asked for by its name. -/
theorem drain_more {rows : List Json} {b : Batch} {id : String} (hmore : b.hasMore = true)
    (hid : b.id = some id) (n : Network) :
    drain s rows b n = collect s rows "PUT" ("/_api/cursor/" ++ Text.percentEncode id) none n := by
  rw [drain, if_pos hmore]
  unfold collect
  rw [hid]
  dsimp only
  split
  · next next n' hask => rw [hask]
  · next e n' hask => rw [hask]

/-- After the last batch all rows are there. -/
theorem drain_last {rows : List Json} {b : Batch} (hmore : b.hasMore = false) (n : Network) :
    drain s rows b n = (.ok rows, n) := by
  rw [drain, if_neg (by rw [hmore]; exact Bool.false_ne_true)]

/-- A batch that does not say where there is more ends the query. -/
theorem drain_nameless {rows : List Json} {b : Batch} (hmore : b.hasMore = true) (hid : b.id = none)
    (n : Network) : drain s rows b n = (.error (.decode .cursorWithoutId), n) := by
  rw [drain, if_pos hmore, hid]

variable {rows : List Json} {method path : String} {body : Option Json}
  {script : List HttpOutcome} {sent : List HttpRequest}

/-- An answer that carries a batch takes one request. -/
theorem askBatch_isBatch {o : HttpOutcome} {b : Batch} (ho : IsBatch o b) :
    askBatch s method path body ⟨true, o :: script, sent⟩ =
      (.ok b, ⟨true, script, sent ++ [request s method path body]⟩) := by
  obtain ⟨status, answer, rfl, hlow, hhigh, hread⟩ := ho
  simp only [askBatch, ask, Network.send, Bool.not_true, Bool.false_eq_true, if_false,
    if_pos (And.intro hlow hhigh), hread]
  rfl

/-- A batch with a name for the next one. -/
theorem collect_more {o : HttpOutcome} {b : Batch} {id : String} (ho : IsBatch o b)
    (hmore : b.hasMore = true) (hid : b.id = some id) :
    collect s rows method path body ⟨true, o :: script, sent⟩ =
      collect s (rows ++ b.rows) "PUT" ("/_api/cursor/" ++ Text.percentEncode id) none
        ⟨true, script, sent ++ [request s method path body]⟩ := by
  rw [collect, askBatch_isBatch ho]
  exact drain_more hmore hid _

/-- The last batch. -/
theorem collect_last {o : HttpOutcome} {b : Batch} (ho : IsBatch o b) (hmore : b.hasMore = false) :
    collect s rows method path body ⟨true, o :: script, sent⟩ =
      (.ok (rows ++ b.rows), ⟨true, script, sent ++ [request s method path body]⟩) := by
  rw [collect, askBatch_isBatch ho]
  exact drain_last hmore _

/-- An answer that ends the query with an error. -/
theorem collect_offends {tail : List HttpOutcome} {e : StoreError}
    (h : Offends (request s method path body) tail e) :
    collect s rows method path body ⟨true, tail, sent⟩ =
      (.error e, ⟨true, tail.tail, sent ++ [request s method path body]⟩) := by
  cases h with
  | refused hstatus hread =>
      simp only [collect, askBatch, ask, Network.send, Bool.not_true, Bool.false_eq_true, if_false,
        if_neg hstatus, refusal, hread]
      rfl
  | unreadable hstatus hread =>
      simp only [collect, askBatch, ask, Network.send, Bool.not_true, Bool.false_eq_true, if_false,
        if_pos hstatus, hread]
      rfl
  | nameless ho hmore hid =>
      rw [collect, askBatch_isBatch ho]
      exact drain_nameless hmore hid _
  | silent => rfl
  | closed => rfl

/-- A script begins with a batch that names the next one, with the last batch, or with what ends the
query. -/
theorem step_cases (r : HttpRequest) (script : List HttpOutcome) :
    (∃ o rest b id, script = o :: rest ∧ IsBatch o b ∧ b.hasMore = true ∧ b.id = some id) ∨
    (∃ o rest b, script = o :: rest ∧ IsBatch o b ∧ b.hasMore = false) ∨
    ∃ e, Offends r script e := by
  match script with
  | [] => exact .inr (.inr ⟨_, .closed⟩)
  | .silence :: rest => exact .inr (.inr ⟨_, .silent⟩)
  | .reply status body :: rest =>
      by_cases hstatus : 200 ≤ status ∧ status < 300
      · cases hread : decodeText decodeBatch body with
        | none => exact .inr (.inr ⟨_, .unreadable hstatus hread⟩)
        | some b =>
            have ho : IsBatch (.reply status body) b :=
              ⟨status, body, rfl, hstatus.1, hstatus.2, hread⟩
            cases hmore : b.hasMore with
            | false => exact .inr (.inl ⟨_, rest, b, rfl, ho, hmore⟩)
            | true =>
                cases hid : b.id with
                | none => exact .inr (.inr ⟨_, .nameless ho hmore hid⟩)
                | some id => exact .inl ⟨_, rest, b, id, rfl, ho, hmore, hid⟩
      · exact .inr (.inr ⟨_, .refused hstatus rfl⟩)

/-! ### A whole script -/

/-- The requests of a query: its first one, and one for each name. -/
def requests (s : ArangoSettings) (r : HttpRequest) (batches : List (Batch × String)) :
    List HttpRequest :=
  r :: batches.map fun p => nextRequest s p.2

/-- There is one request for each answer with more after it, and one more. -/
theorem length_requests {before : List HttpOutcome} {batches : List (Batch × String)}
    (hbefore : GoOn before batches) (r : HttpRequest) :
    (requests s r batches).length = before.length + 1 := by
  have hlength : before.length = batches.length := List.Forall₂.length_eq hbefore
  simp only [requests, List.length_cons, List.length_map, hlength]

/-- The rows of batches in order. -/
def rowsOf (batches : List (Batch × String)) : List Json :=
  batches.flatMap fun p => p.1.rows

/-- The last one of the requests of a query. -/
def lastRequest (s : ArangoSettings) (r : HttpRequest) (batches : List (Batch × String)) :
    HttpRequest :=
  (batches.map fun p => nextRequest s p.2).getLastD r

/-- A query over batches with more after them and a last one. -/
theorem collect_completes {before : List HttpOutcome} {batches : List (Batch × String)}
    {o : HttpOutcome} {last : Batch} {rest : List HttpOutcome} (hbefore : GoOn before batches)
    (ho : IsBatch o last) (hmore : last.hasMore = false) :
    collect s rows method path body ⟨true, before ++ o :: rest, sent⟩ =
      (.ok (rows ++ rowsOf batches ++ last.rows),
        ⟨true, rest, sent ++ requests s (request s method path body) batches⟩) := by
  -- each batch of the prefix hands its name over to the request for the next one
  induction hbefore generalizing rows method path body sent with
  | nil =>
      rw [rowsOf, List.flatMap_nil, List.append_nil]
      exact collect_last ho hmore
  | cons hbatch _ ih =>
      obtain ⟨hb, hgoes, hid⟩ := hbatch
      rw [List.cons_append, collect_more hb hgoes hid, ih]
      simp only [requests, rowsOf, nextRequest, List.flatMap_cons, List.map_cons,
        List.append_assoc, List.singleton_append]

/-- A query over batches with more after them and an answer that ends it with an error. -/
theorem collect_fails {before : List HttpOutcome} {batches : List (Batch × String)}
    {tail : List HttpOutcome} {e : StoreError} (hbefore : GoOn before batches)
    (htail : Offends (lastRequest s (request s method path body) batches) tail e) :
    collect s rows method path body ⟨true, before ++ tail, sent⟩ =
      (.error e,
        ⟨true, tail.tail, sent ++ requests s (request s method path body) batches⟩) := by
  induction hbefore generalizing rows method path body sent with
  | nil => exact collect_offends htail
  | cons hbatch _ ih =>
      obtain ⟨hb, hgoes, hid⟩ := hbatch
      rw [lastRequest, List.map_cons, List.getLastD_cons] at htail
      rw [List.cons_append, collect_more hb hgoes hid, ih htail]
      simp only [requests, nextRequest, List.map_cons, List.append_assoc, List.singleton_append]

/-- A query that gets a last batch. -/
theorem run_completes (q : BoundQuery) {before : List HttpOutcome}
    {batches : List (Batch × String)} {o : HttpOutcome} {last : Batch} {rest : List HttpOutcome}
    (hbefore : GoOn before batches) (ho : IsBatch o last) (hmore : last.hasMore = false) :
    run s q ⟨true, before ++ o :: rest, sent⟩ =
      (.ok (rowsOf batches ++ last.rows),
        ⟨true, rest, sent ++ requests s (openRequest s q) batches⟩) := by
  rw [run_eq_collect, collect_completes hbefore ho hmore]
  rfl

/-- A query that gets no last batch. -/
theorem run_fails (q : BoundQuery) {before : List HttpOutcome} {batches : List (Batch × String)}
    {tail : List HttpOutcome} {e : StoreError} (hbefore : GoOn before batches)
    (htail : Offends (lastRequest s (openRequest s q) batches) tail e) :
    run s q ⟨true, before ++ tail, sent⟩ =
      (.error e, ⟨true, tail.tail, sent ++ requests s (openRequest s q) batches⟩) := by
  rw [run_eq_collect, collect_fails hbefore htail]
  rfl

/-- Every script goes on over some of its answers up to a last batch or up to what ends the
query. -/
theorem script_cases (r : HttpRequest) (script : List HttpOutcome) :
    (∃ before batches o last rest, script = before ++ o :: rest ∧ GoOn before batches ∧
      IsBatch o last ∧ last.hasMore = false) ∨
    ∃ before batches tail e, script = before ++ tail ∧ GoOn before batches ∧
      Offends (lastRequest s r batches) tail e := by
  -- the request is generalized, because a failure is worded with the request that it answers
  induction script generalizing r with
  | nil => exact .inr ⟨[], [], [], _, rfl, .nil, .closed⟩
  | cons o rest ih =>
      rcases step_cases r (o :: rest) with
        ⟨_, _, b, id, heq, hb, hgoes, hid⟩ | ⟨_, _, b, heq, hb, hmore⟩ | ⟨e, he⟩
      · cases heq
        rcases ih (nextRequest s id) with
          ⟨before, batches, last, b', rest', rfl, hbefore, hlast, hmore⟩ |
          ⟨before, batches, tail, e, rfl, hbefore, htail⟩
        · exact .inl ⟨o :: before, (b, id) :: batches, last, b', rest', rfl,
            .cons ⟨hb, hgoes, hid⟩ hbefore, hlast, hmore⟩
        · refine .inr ⟨o :: before, (b, id) :: batches, tail, e, rfl,
            .cons ⟨hb, hgoes, hid⟩ hbefore, ?_⟩
          rw [lastRequest, List.map_cons, List.getLastD_cons]
          exact htail
      · cases heq
        exact .inl ⟨[], [], o, b, rest, rfl, .nil, hb, hmore⟩
      · exact .inr ⟨[], [], o :: rest, e, rfl, .nil, he⟩

/-- A query over a script of answers returns the rows of all batches in order if and only if the
script goes on up to a last batch, and otherwise the error of the answer that ends it. It sends one
request for each answer up to there, the first one for the query and the others for the name in the
answer before, and leaves the rest of the script alone. -/
theorem run_drains (s : ArangoSettings) (q : BoundQuery) (script : List HttpOutcome)
    (sent : List HttpRequest) :
    (∀ rows after, run s q ⟨true, script, sent⟩ = (.ok rows, after) ↔
      ∃ before batches o last rest, script = before ++ o :: rest ∧ GoOn before batches ∧
        IsBatch o last ∧ last.hasMore = false ∧
        rows = rowsOf batches ++ last.rows ∧
        after = ⟨true, rest, sent ++ requests s (openRequest s q) batches⟩) ∧
    (∀ e after, run s q ⟨true, script, sent⟩ = (.error e, after) ↔
      ∃ before batches tail, script = before ++ tail ∧ GoOn before batches ∧
        Offends (lastRequest s (openRequest s q) batches) tail e ∧
        after = ⟨true, tail.tail, sent ++ requests s (openRequest s q) batches⟩) ∧
    (∀ before batches, GoOn before batches →
      (requests s (openRequest s q) batches).length = before.length + 1) ∧
    Function.Injective (nextRequest s) := by
  refine ⟨fun rows after => ⟨fun h => ?_, ?_⟩, fun e after => ⟨fun h => ?_, ?_⟩,
    fun before batches hbefore => length_requests hbefore _, nextRequest_injective s⟩
  · rcases script_cases (s := s) (openRequest s q) script with
      ⟨before, batches, o, last, rest, rfl, hbefore, ho, hmore⟩ |
      ⟨before, batches, tail, e, rfl, hbefore, htail⟩
    · cases (run_completes q hbefore ho hmore).symm.trans h
      exact ⟨before, batches, o, last, rest, rfl, hbefore, ho, hmore, rfl, rfl⟩
    · cases (run_fails q hbefore htail).symm.trans h
  · rintro ⟨before, batches, o, last, rest, rfl, hbefore, ho, hmore, rfl, rfl⟩
    exact run_completes q hbefore ho hmore
  · rcases script_cases (s := s) (openRequest s q) script with
      ⟨before, batches, o, last, rest, rfl, hbefore, ho, hmore⟩ |
      ⟨before, batches, tail, e', rfl, hbefore, htail⟩
    · cases (run_completes q hbefore ho hmore).symm.trans h
    · cases (run_fails q hbefore htail).symm.trans h
      exact ⟨before, batches, tail, rfl, hbefore, htail, rfl⟩
  · rintro ⟨before, batches, tail, rfl, hbefore, htail, rfl⟩
    exact run_fails q hbefore htail

/-- A batch that names the cursor for the next one. -/
def firstReply : HttpOutcome :=
  .reply 201 "\x7b\"result\":[1],\"hasMore\":true,\"id\":\"7\"\x7d"

/-- The answer carries its one row and the name. -/
theorem goOn_firstReply : GoOn [firstReply] [(⟨[.int 1], true, some "7"⟩, "7")] := by
  have hread : decodeText decodeBatch "\x7b\"result\":[1],\"hasMore\":true,\"id\":\"7\"\x7d" =
      some ⟨[.int 1], true, some "7"⟩ := by cbv
  exact .cons ⟨⟨201, _, rfl, by decide, by decide, hread⟩, rfl, rfl⟩ .nil

/-- After a batch that names the cursor, a batch with rows alone is the last one, and its rows come
after those of the first. A body that is cut off is no batch, and no row is left then. -/
theorem run_two_batches :
    run .default ⟨"RETURN 1", []⟩
        ⟨true, [firstReply, .reply 200 "\x7b\"result\":[2,null]\x7d", .silence], []⟩ =
      (.ok [.int 1, .int 2, .null], ⟨true, [.silence],
        [openRequest .default ⟨"RETURN 1", []⟩, nextRequest .default "7"]⟩) ∧
    run .default ⟨"RETURN 1", []⟩
        ⟨true, [firstReply, .reply 200 "\x7b\"result\":[2", .silence], []⟩ =
      (.error (.request "error decoding response body"), ⟨true, [.silence],
        [openRequest .default ⟨"RETURN 1", []⟩, nextRequest .default "7"]⟩) ∧
    (nextRequest .default "7").url = "http://localhost:8529/_db/_system/_api/cursor/7" := by
  have hlast : decodeText decodeBatch "\x7b\"result\":[2,null]\x7d" =
      some ⟨[.int 2, .null], false, none⟩ := by cbv
  have hcut : decodeText decodeBatch "\x7b\"result\":[2" = none := by cbv
  obtain ⟨hok, -, -, -⟩ := run_drains .default ⟨"RETURN 1", []⟩
    [firstReply, .reply 200 "\x7b\"result\":[2,null]\x7d", .silence] []
  obtain ⟨-, herror, -, -⟩ := run_drains .default ⟨"RETURN 1", []⟩
    [firstReply, .reply 200 "\x7b\"result\":[2", .silence] []
  refine ⟨(hok _ _).2 ?_, (herror _ _).2 ?_, by decide +kernel⟩
  · exact ⟨[firstReply], _, _, _, [.silence], rfl, goOn_firstReply,
      ⟨200, _, rfl, by decide, by decide, hlast⟩, rfl, rfl, rfl⟩
  · exact ⟨[firstReply], _, _, rfl, goOn_firstReply, .unreadable (by decide) hcut, rfl⟩

end SeriesQuery.Arango
