import SeriesQuery.Store.Basic

/-!
# The network between a client and a server

Requests are answered in order by what the network has in store for them. After its last answer the
connection is closed, and a network that nobody listens on takes no request at all.
-/

namespace SeriesQuery

/-- A request to a server. -/
structure HttpRequest where
  method : String
  url : String
  authorization : String
  /-- The value that is sent, if one is. -/
  body : Option Json

/-- What happens to a request. -/
inductive HttpOutcome where
  /-- An answer with a status and a text. -/
  | reply (status : Nat) (body : String)
  /-- No answer ever. -/
  | silence

/-- A network with a server at its other end. -/
structure Network where
  /-- Whether somebody listens. -/
  listening : Bool
  /-- What happens to the next requests. -/
  script : List HttpOutcome
  /-- The requests that were sent, oldest first. -/
  sent : List HttpRequest

namespace Network

/-- The network that nobody listens on. -/
def closed : Network := ⟨false, [], []⟩

/-- Why a request fails that is refused. -/
def refusedReason : String :=
  "error trying to connect: tcp connect error: Connection refused (os error 111)"

/-- Why a request fails that is left without an answer. -/
def closedReason : String := "connection closed before message completed"

/-- The wording of a failure to send a request. -/
def failure (r : HttpRequest) (reason : String) : String :=
  "error sending request for url (" ++ r.url ++ "): " ++ reason

/-- Sends a request and waits for the answer. -/
def send (r : HttpRequest) (n : Network) : Except StoreError (Nat × String) × Network :=
  if !n.listening then (.error (.unavailable (failure r refusedReason)), n)
  else
    let sent := n.sent ++ [r]
    match n.script with
    | [] => (.error (.request (failure r closedReason)), { n with sent })
    | .silence :: script => (.error .timeout, { n with script, sent })
    | .reply status body :: script => (.ok (status, body), { n with script, sent })

theorem length_script_send_lt {r : HttpRequest} {n n' : Network} {answer : Nat × String}
    (h : send r n = (.ok answer, n')) : n'.script.length < n.script.length := by
  simp only [send] at h
  split at h
  · cases h
  · split at h
    · cases h
    · cases h
    · next script hscript =>
      cases h
      rw [hscript]
      exact Nat.lt_succ_self _

end Network

end SeriesQuery
