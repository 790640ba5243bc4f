import SeriesQuery.Api.MediaType
import SeriesQuery.Api.Request
import SeriesQuery.Query.Runner

/-!
# The HTTP interface

Queries and searches are posted, and the state of the service is read. `Api.handle` answers a call:
it finds the route of the path, refuses a method that the route does not have, and turns every error
into a status with a code. A call that is broken off has no answer.
-/

namespace SeriesQuery

/-- Why a call has no result. -/
inductive ApiError where
  /-- The request is not valid. -/
  | validation (e : RequestError)
  /-- The query failed. -/
  | query (e : QueryError)
  deriving DecidableEq

namespace ApiError

/-- The wording of the error. -/
def message : ApiError → String
  | validation e => "Validation error: " ++ e.message
  | query e => "Query error: " ++ e.message

/-- The status and the code that an error is answered with. A call that was broken off is not
answered. -/
def report? : ApiError → Option (Nat × String)
  | validation (.overflow _) => none
  | validation _ => some (400, "VALIDATION_ERROR")
  | query (.unknownTarget _) => some (404, "UNKNOWN_TARGET")
  | query (.invalidRange _ _) => some (400, "VALIDATION_ERROR")
  | query (.invalidInterval _) => some (400, "VALIDATION_ERROR")
  | query (.template _) => some (400, "TEMPLATE_ERROR")
  | query (.store _) => some (502, "STORE_ERROR")
  | query (.overflow _) => none

end ApiError

/-- A call of the interface. -/
structure HttpCall where
  method : String
  path : String
  contentType : Option String
  body : String

/-- An answer: a status and a value, if there is one. -/
structure HttpAnswer where
  status : Nat
  body : Option Json

/-- What differs between calls and is not in them. -/
structure Occasion where
  /-- The present, in milliseconds. -/
  now : Int64
  /-- Seconds since the service was started. -/
  uptime : Nat
  /-- Name that errors are reported under. -/
  requestId : String

/-- The service behind the interface. -/
structure Api (σ : Type) where
  runner : Runner
  store : DocumentStore σ
  /-- The longest body in bytes. -/
  maxBody : Nat

namespace Api

variable {σ : Type}

/-- The longest body where nothing else is said. -/
def defaultMaxBody : Nat := 2097152

/-- The version of the service. -/
def version : String := "0.1.0"

/-- The routes of the interface. -/
inductive Route where
  | root | search | query | live | ready | health
  deriving DecidableEq

namespace Route

/-- The routes by their paths. -/
def paths : List (String × Route) :=
  [("/", root), ("/search", search), ("/query", query), ("/health/live", live),
    ("/health/ready", ready), ("/health", health)]

/-- The route of a path; what follows a question mark does not matter. -/
def ofPath? (path : String) : Option Route :=
  paths.lookup (String.ofList (path.toList.takeWhile fun c => c != '?' && c != '#'))

/-- Whether the route is posted to. -/
def isPosted : Route → Bool
  | search => true
  | query => true
  | _ => false

/-- Whether the route has a method. -/
def allows (r : Route) (method : String) : Bool :=
  if r.isPosted then method == "POST" else method == "GET" || method == "HEAD"

end Route

/-- The answer to a call that failed, unless it was broken off. -/
def refuse (occasion : Occasion) (e : ApiError) : Option HttpAnswer :=
  e.report?.map fun (status, code) =>
    { status
      body := some (.object
        [("error", .object [("code", .str code), ("message", .str e.message)]),
          ("request_id", .str occasion.requestId)]) }

/-- Decodes the body of a call; a text after its document does not matter. -/
def decodeBody {α : Type} (api : Api σ) (decode : Decoder α) (call : HttpCall) :
    Except RequestError α :=
  if !(call.contentType.map MediaType.isJson).getD false then .error .mediaType
  else if api.maxBody < call.body.utf8ByteSize then .error .tooLong
  else
    match decode Rules.json (Document.read call.body).1 with
    | .ok a => .ok a
    | .error .text => .error .notData
    | .error .shape => .error .wrongShape

/-- Answers a query. -/
def answerQuery (api : Api σ) (occasion : Occasion) (call : HttpCall) :
    Effect σ ApiError (List TargetResponse) := do
  let request ← Effect.ofExcept
    ((api.decodeBody QueryRequest.decode call).mapError ApiError.validation)
  let params ← Effect.ofExcept ((request.toParams occasion.now).mapError ApiError.validation)
  (api.runner.query api.store params).mapError ApiError.query

/-- Answers a search; a body that cannot be read counts as none. -/
def answerSearch (api : Api σ) (call : HttpCall) : Effect σ ApiError (List Json) :=
  let target := match api.decodeBody decodeSearch call with
    | .ok target => target
    | .error _ => none
  (api.runner.search api.store (Text.nonBlank? target)).mapError ApiError.query

/-- Whether the store answers. -/
def storeAnswers (api : Api σ) (s : σ) : Bool × σ :=
  match api.store.ping s with
  | (.ok _, s) => (true, s)
  | (.error _, s) => (false, s)

/-- The state of the service. -/
def healthReport (api : Api σ) (occasion : Occasion) (storeAnswers : Bool) : Json :=
  .object
    [("status", .str (if storeAnswers then "healthy" else "degraded")),
      ("store", .str (if storeAnswers then "ok" else "error")),
      ("backend", .str api.store.name),
      ("targets", .nat api.runner.catalog.size),
      ("uptime_seconds", .nat occasion.uptime),
      ("version", .str version)]

/-- The answer of a computation. -/
def answerWith (occasion : Occasion) (r : Except ApiError Json) : Option HttpAnswer :=
  match r with
  | .ok v => some ⟨200, some v⟩
  | .error e => refuse occasion e

/-- Answers a call of a route. -/
def handleRoute (api : Api σ) (occasion : Occasion) (call : HttpCall) (s : σ) :
    Route → Option HttpAnswer × σ
  | .root => (some ⟨200, some (.object [("ok", .bool true)])⟩, s)
  | .live => (some ⟨200, none⟩, s)
  | .ready =>
    let (ok, s) := api.storeAnswers s
    (some ⟨if ok then 200 else 503, none⟩, s)
  | .health =>
    let (ok, s) := api.storeAnswers s
    (some ⟨200, some (api.healthReport occasion ok)⟩, s)
  | .search =>
    let (r, s) := api.answerSearch call s
    (answerWith occasion (r.map Json.arr), s)
  | .query =>
    let (r, s) := api.answerQuery occasion call s
    (answerWith occasion (r.map fun responses => .arr (responses.map TargetResponse.toJson)), s)

/-- Answers a call, unless it is broken off. A question for what is allowed is answered without a
body on every path, and the answer to a question for headers alone has none. -/
def handle (api : Api σ) (occasion : Occasion) (call : HttpCall) (s : σ) :
    Option HttpAnswer × σ :=
  if call.method = "OPTIONS" then (some ⟨200, none⟩, s)
  else
    match Route.ofPath? call.path with
    | none => (some ⟨404, none⟩, s)
    | some route =>
      if !route.allows call.method then (some ⟨405, none⟩, s)
      else
        let (answer, s) := api.handleRoute occasion call s route
        (if call.method = "HEAD" then answer.map fun a => { a with body := none } else answer, s)

end Api

end SeriesQuery
