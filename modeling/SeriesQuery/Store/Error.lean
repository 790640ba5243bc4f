import SeriesQuery.Expr.Parser
import SeriesQuery.Json.Flaw

/-!
# Errors of document stores
-/

namespace SeriesQuery

/-- What cannot be made out in an answer or a file. -/
inductive DecodeError where
  /-- A text is no value of the data format. -/
  | notData (e : ReadError)
  /-- Fixtures are no object. -/
  | notCollections
  /-- A collection among fixtures is no array. -/
  | notDocuments (collection : String)
  /-- A cursor has more results and does not say where. -/
  | cursorWithoutId
  deriving DecidableEq

/-- The wording of the error. -/
def DecodeError.message : DecodeError → String
  | notData e => e.message
  | notCollections => "fixtures must be an object of collections"
  | notDocuments collection => "fixture collection '" ++ collection ++ "' must be an array"
  | cursorWithoutId => "cursor has more results but no id"

/-- Why a store does not answer. -/
inductive StoreError where
  /-- Nobody takes the connection. -/
  | unavailable (reason : String)
  /-- No answer came in time. -/
  | timeout
  /-- The exchange with the server failed. -/
  | request (reason : String)
  /-- The server refused. -/
  | api (status : Nat) (number : Int) (reason : String)
  /-- An answer or a file cannot be made out. -/
  | decode (e : DecodeError)
  /-- There is no such collection. -/
  | unknownCollection (name : String)
  /-- A text of a plan is no expression. -/
  | expression (e : ParseError)
  /-- The store has no result for this query. -/
  | unsupported (query : String)
  /-- A file cannot be read. -/
  | io (reason : String)
  deriving DecidableEq

/-- The wording of the error. -/
def StoreError.message : StoreError → String
  | unavailable reason => "Store unavailable: " ++ reason
  | timeout => "Store request timed out"
  | request reason => "Request failed: " ++ reason
  | api status number reason =>
    "Store error " ++ toString status ++ " (" ++ toString number ++ "): " ++ reason
  | decode e => "Invalid store response: " ++ e.message
  | unknownCollection name => "Unknown collection: " ++ name
  | expression e => "Expression error: " ++ e.message
  | unsupported query => "Unsupported query: no canned result for '" ++ query ++ "'"
  | io reason => "IO error: " ++ reason

end SeriesQuery
