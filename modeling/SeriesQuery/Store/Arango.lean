import SeriesQuery.Json.Decode
import SeriesQuery.Store.Network
import SeriesQuery.Text.Encoding

/-!
# The client of an ArangoDB server

Plans are sent as texts of the query language. The answer is a cursor: the first batch of rows comes
with the answer to the query, and while there are more, the next batch is asked for by the name that
the batch before gave to the cursor.
-/

namespace SeriesQuery

/-- How a server is reached. -/
structure ArangoSettings where
  /-- Where it listens. -/
  url : String
  database : String
  username : String
  password : Option String
  /-- Time that an answer may take, in milliseconds. -/
  timeout : Nat
  /-- Rows of a batch. -/
  batchSize : Nat

namespace ArangoSettings

/-- A local server as it is installed. -/
def default : ArangoSettings where
  url := "http://localhost:8529"
  database := "_system"
  username := "root"
  password := none
  timeout := 10000
  batchSize := 1000

/-- The URL of the database. -/
def databaseUrl (s : ArangoSettings) : String :=
  String.ofList (s.url.toList.reverse.dropWhile (· == '/')).reverse ++ "/_db/" ++
    Text.percentEncode s.database

/-- The header that names the user. -/
def authorization (s : ArangoSettings) : String :=
  "Basic " ++ Text.base64 (s.username ++ ":" ++ s.password.getD "")

end ArangoSettings

namespace Arango

/-- A batch of the rows of a cursor. -/
structure Batch where
  rows : List Json
  hasMore : Bool
  /-- The name that the next batch is asked for by. -/
  id : Option String

/-- Reads the whole of a text with a decoder. -/
def decodeText {α : Type} (decode : Decoder α) (s : String) : Option α :=
  let (d, rest) := Document.read s
  match decode Rules.json d with
  | .ok a => if (Lexeme.skipSpace rest).isEmpty then some a else none
  | .error _ => none

/-- Decodes a batch. -/
def decodeBatch : Decoder Batch :=
  Decode.record ⟨[], false, none⟩
    [Decode.field .defaulted "result" (Decode.list Decode.value) fun b v => { b with rows := v },
      Decode.field .defaulted "hasMore" Decode.bool fun b v => { b with hasMore := v },
      Decode.field .defaulted "id" (Decode.orNull Decode.text) fun b v => { b with id := v }]

/-- Decodes the number and the text of an error. -/
def decodeError : Decoder (Int × String) :=
  Decode.record (0, "")
    [Decode.field .defaulted "errorNum" (Decode.intWithin Int64.minValue.toInt Int64.maxValue.toInt)
        fun e v => (v, e.2),
      Decode.field .defaulted "errorMessage" Decode.text fun e v => (e.1, v)]

/-- Number of the error for a missing collection. -/
def collectionNotFound : Int := 1203

/-- The error of an answer that is no success. -/
def refusal (status : Nat) (body : String) : StoreError :=
  let (number, reason) := (decodeText decodeError body).getD (0, body)
  .api status number reason

/-- Sends a request, and takes an answer that is no success for an error. -/
def ask (s : ArangoSettings) (method path : String) (body : Option Json) (n : Network) :
    Except StoreError String × Network :=
  let r : HttpRequest :=
    { method, url := s.databaseUrl ++ path, authorization := s.authorization, body }
  match Network.send r n with
  | (.ok (status, text), n) =>
    if 200 ≤ status ∧ status < 300 then (.ok text, n) else (.error (refusal status text), n)
  | (.error e, n) => (.error e, n)

/-- Sends a request for a batch. -/
def askBatch (s : ArangoSettings) (method path : String) (body : Option Json) (n : Network) :
    Except StoreError Batch × Network :=
  match ask s method path body n with
  | (.ok text, n) =>
    match decodeText decodeBatch text with
    | some b => (.ok b, n)
    | none => (.error (.request "error decoding response body"), n)
  | (.error e, n) => (.error e, n)

theorem length_script_askBatch_lt {s : ArangoSettings} {method path : String} {body : Option Json}
    {n n' : Network} {b : Batch} (h : askBatch s method path body n = (.ok b, n')) :
    n'.script.length < n.script.length := by
  simp only [askBatch, ask] at h
  split at h
  · next text n₁ hask =>
    have : n' = n₁ := by split at h <;> simp_all
    subst this
    split at hask
    · next status answer n₂ hsend =>
      have : n' = n₂ := by split at hask <;> simp_all
      subst this
      exact Network.length_script_send_lt hsend
    · simp at hask
  · simp at h

/-- Asks for the batches after one. -/
def drain (s : ArangoSettings) (rows : List Json) (b : Batch) (n : Network) :
    Except StoreError (List Json) × Network :=
  if b.hasMore then
    match b.id with
    | none => (.error (.decode .cursorWithoutId), n)
    | some id =>
      match h : askBatch s "PUT" ("/_api/cursor/" ++ Text.percentEncode id) none n with
      | (.ok next, n') =>
        have := length_script_askBatch_lt h
        drain s (rows ++ next.rows) next n'
      | (.error e, n') => (.error e, n')
  else (.ok rows, n)
termination_by n.script.length

/-- What is sent for a query. -/
def queryBody (s : ArangoSettings) (q : BoundQuery) : Json :=
  .object [("query", .str q.text), ("bindVars", .obj q.bindVars), ("batchSize", .nat s.batchSize)]

/-- Runs a query and collects all its rows. -/
def run (s : ArangoSettings) (q : BoundQuery) : Effect Network StoreError (List Json) := fun n =>
  match askBatch s "POST" "/_api/cursor" (some (queryBody s q)) n with
  | (.ok b, n) => drain s b.rows b n
  | (.error e, n) => (.error e, n)

/-- Asks whether there is a collection. -/
def hasCollection (s : ArangoSettings) (name : String) : Effect Network StoreError Bool := fun n =>
  match ask s "GET" ("/_api/collection/" ++ Text.percentEncode name) none n with
  | (.ok _, n) => (.ok true, n)
  | (.error (.api status number reason), n) =>
    if status = 404 ∨ number = collectionNotFound then (.ok false, n)
    else (.error (.api status number reason), n)
  | (.error e, n) => (.error e, n)

/-- The operations of the client. -/
def operations (s : ArangoSettings) : DocumentStore Network where
  name := "arangodb"
  ping := fun n =>
    match ask s "GET" "/_api/version" none n with
    | (.ok _, n) => (.ok (), n)
    | (.error e, n) => (.error e, n)
  hasCollection := hasCollection s
  execute p := run s p.toQuery
  runText query := run s ⟨query, []⟩

end Arango

end SeriesQuery
