import FirewallProbe.Dialogue

/-! # Replaying recorded responses

A `Replay` answers from a table of recorded responses and keeps the questions it was asked.  An
endpoint that is not in the table is not found. -/

namespace FirewallProbe

/-- A recorded response. -/
inductive Recorded where
  | body (v : Json)
  | status (code : Nat)
  | fault (e : FetchError)

/-- Recorded responses and the questions asked so far. -/
structure Replay where
  responses : List (Endpoint × Recorded) := []
  calls : List Endpoint := []

namespace Replay

/-- Adds a `response`, which takes the place of an earlier one for the same `endpoint`. -/
def add (r : Replay) (endpoint : Endpoint) (response : Recorded) : Replay :=
  { r with responses := (endpoint, response) :: r.responses.filter fun e => e.1 != endpoint }

/-- The response recorded for an `endpoint`. -/
def find? (r : Replay) (endpoint : Endpoint) : Option Recorded :=
  (r.responses.find? fun e => e.1 == endpoint).map (·.2)

/-- The answer to the question `endpoint`. -/
def answer (r : Replay) (endpoint : Endpoint) : Answer :=
  match r.find? endpoint with
  | some (.body v) => .ok v
  | some (.status code) => .error (.status endpoint.path code)
  | some (.fault e) => .error e
  | none => .error (.status endpoint.path 404)

/-- Answers the question `endpoint` and keeps it. -/
def ask (r : Replay) (endpoint : Endpoint) : Answer × Replay :=
  (r.answer endpoint, { r with calls := r.calls ++ [endpoint] })

/-- The device that answers from recorded responses. -/
def device : Device Replay := ⟨ask⟩

end Replay
end FirewallProbe
