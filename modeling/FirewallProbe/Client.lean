import FirewallProbe.Dialogue
import FirewallProbe.Duration
import FirewallProbe.Json.Parser

/-! # Asking a device over HTTP

A `Client` turns questions into requests of the device's REST interface and the replies into
answers.  All requests of a probe share one deadline: each may take what is left of it, but never
longer than the limit of a single request.  A `Network` says how long a probe has been under way and
carries requests. -/

namespace FirewallProbe

/-- A request to a device; the method is always `GET`. -/
structure DeviceRequest where
  url : String
  authorization : String
  accept : String
  timeout : Duration

/-- A reply of a device. -/
structure DeviceReply where
  status : Nat
  body : String
  deriving DecidableEq, Repr

/-- Why a request had no reply. -/
inductive TransportFault where
  | timedOut
  | failed (message : String)
  deriving DecidableEq, Repr

/-- The world in which a probe runs. -/
structure Network (σ : Type) where
  elapsed : σ → Duration
  exchange : σ → DeviceRequest → Except TransportFault DeviceReply × σ

/-- How to ask a device. -/
structure Client where
  baseUrl : String
  token : String
  requestTimeout : Duration

namespace Client

/-- The URL of the endpoint `e`. -/
def url (c : Client) (e : Endpoint) : String :=
  if e.query.isEmpty then s!"{c.baseUrl}/api/v2/{e.path}"
  else s!"{c.baseUrl}/api/v2/{e.path}?{e.query}"

/-- The request for the endpoint `e` when `remaining` is left of the deadline. -/
def request (c : Client) (e : Endpoint) (remaining : Duration) : DeviceRequest where
  url := c.url e
  authorization := s!"Bearer {c.token}"
  accept := "application/json"
  timeout := remaining.shorter c.requestTimeout

/-- The answer about `path` that a reply gives. -/
def answerOf (path : String) : Except TransportFault DeviceReply → Answer
  | .error .timedOut => .error (.timeout path)
  | .error (.failed message) => .error (.transport path message)
  | .ok reply =>
    if reply.status < 200 ∨ 300 ≤ reply.status then .error (.status path reply.status)
    else
      match Json.parse reply.body with
      | .ok v => .ok v
      | .error e => .error (.malformedJson path e.message)

/-- The device as the client sees it; nothing is asked once the deadline, `timeout` after the start,
has passed. -/
def device {σ : Type} (c : Client) (timeout : Duration) (network : Network σ) : Device σ where
  answer state e :=
    let remaining := timeout.minus (network.elapsed state)
    if remaining.isZero then (.error (.timeout e.path), state)
    else
      let (reply, state) := network.exchange state (c.request e remaining)
      (answerOf e.path reply, state)

end Client
end FirewallProbe
