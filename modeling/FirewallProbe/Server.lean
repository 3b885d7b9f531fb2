import FirewallProbe.Config.Document
import FirewallProbe.Http.Form
import FirewallProbe.Http.Message
import FirewallProbe.Probe.Run

/-! # Answering requests

The exporter answers on three paths: one probes a target, one shows the exporter's own metrics, and
one tells that it runs.  `Server.route` decides what a request asks for, without doing it;
`Server.respond` answers in a world that runs probes. -/

namespace FirewallProbe
namespace Server

/-- What a request asks for. -/
inductive Action where
  | reply (response : HttpResponse)
  | showMetrics
  | probe (plan : ProbePlan)

/-- The methods that a path takes. -/
def allowedMethods : String := "GET,HEAD"

/-- The content type of samples. -/
def expositionType : String := "text/plain; version=0.0.4; charset=utf-8"

/-- The content type of the exporter's own metrics. -/
def telemetryType : String := "application/openmetrics-text; version=1.0.0; charset=utf-8"

/-- The values of the targets in a `query`. -/
def targetsOf (query : Option String) : List String :=
  ((Form.pairs (query.getD "")).filter fun p => p.1 == "target").map (·.2)

/-- The answer to a request for which there is nothing to probe. -/
def refusal : ProbeRefusal → HttpResponse
  | .noTarget => .text 400 "missing target parameter\n"
  | .unknownTarget _ => .text 401 "no API token configured for target\n"
  | .unusable fault => .text 500 ((ConfigError.invalid fault).message ++ "\n")

/-- What a request for a probe with this `query` asks for; a target may be named only once. -/
def routeProbe (c : Config) (query : Option String) : Action :=
  match targetsOf query with
  | _ :: _ :: _ =>
    .reply (.text 400 "Failed to deserialize query string: duplicate field `target`")
  | targets =>
    match ProbePlan.decide c targets.head? with
    | .ok plan => .probe plan
    | .error e => .reply (refusal e)

/-- Whether something is answered on a `path`. -/
def isRoute (c : Config) (path : String) : Bool :=
  path == c.server.probePath || path == c.server.metricsPath || path == healthPath

/-- What the request `r` asks for.  Any path may be asked for its options. -/
def route (c : Config) (r : HttpRequest) : Action :=
  let allow := if isRoute c r.path then some allowedMethods else none
  if r.method = "OPTIONS" then .reply { status := 200, allow }
  else if !isRoute c r.path then .reply { status := 404 }
  else if r.method ≠ "GET" ∧ r.method ≠ "HEAD" then .reply { status := 405, allow }
  else if r.path = c.server.probePath then routeProbe c r.query
  else if r.path = c.server.metricsPath then .showMetrics
  else .reply (.text 200 "healthy\n")

/-- The answer that shows the samples of a probe `run`. -/
def probeResponse (run : ProbeRun) : HttpResponse :=
  { status := 200, contentType := some expositionType, body := run.exposition.value }

/-- The answer that shows the exporter's own metrics. -/
def metricsResponse (t : Telemetry) : HttpResponse :=
  { status := 200, contentType := some telemetryType, body := t.render }

/-- The `response` as it is sent to the request `r`: a `HEAD` request gets no body. -/
def sent (r : HttpRequest) (response : HttpResponse) : HttpResponse :=
  if r.method = "HEAD" then response.withoutBody else response

/-- A world that knows the time and runs probes. -/
structure World (σ : Type) where
  now : σ → Instant
  run : σ → ProbePlan → ProbeRun × σ

/-- Answers the request `r`.  A probe whose deadlines cannot be represented is dropped, and its
request has no answer. -/
def respond {σ : Type} (world : World σ) (c : Config) (t : Telemetry) (state : σ)
    (r : HttpRequest) : Option HttpResponse × Telemetry × σ :=
  match route c r with
  | .reply response => (some (sent r response), t, state)
  | .showMetrics => (some (sent r (metricsResponse t)), t, state)
  | .probe plan =>
    match Deadlines.of? (world.now state) plan.timeout with
    -- The probe was counted as under way before its deadlines were worked out.
    | none => (none, t.steps [.start, .drop], state)
    | some _ =>
      let (run, state) := world.run state plan
      (some (sent r (probeResponse run)), t.steps [.start, .finish run], state)

end Server
end FirewallProbe
