import FirewallProbe.Exposition
import FirewallProbe.Probe.Plan
import FirewallProbe.RoutineTable
import FirewallProbe.Telemetry

/-! # Running a probe

`ProbeEnd` is the way in which the work of a probe comes to an end; it fixes the outcome, the
samples and what the exporter counts.  `ProbeStep` is one step in the life of some probe, and
`Telemetry.step` what the exporter's own metrics make of it. -/

namespace FirewallProbe

/-- How the work of a probe ended.  A report is late when the deadline had passed by then. -/
inductive ProbeEnd where
  | reported (report : ScrapeReport) (late : Bool)
  | noClient
  | crashed
  | timedOut

namespace ProbeEnd

/-- The outcome that is counted. -/
def outcome : ProbeEnd → ProbeOutcome
  | reported report late =>
    if report.isOk then .success else if late then .timeout else .failure
  | noClient => .failure
  | crashed => .failure
  | timedOut => .timeout

/-- The samples that are written. -/
def samples : ProbeEnd → List Sample
  | reported report _ => report.samples
  | _ => []

/-- The names of the routines that failed. -/
def failedRoutines : ProbeEnd → List String
  | reported report _ => (report.routines.filter fun r => !r.outcome.isOk).map (·.name)
  | _ => []

/-- Whether the probe succeeded. -/
def isSuccess (e : ProbeEnd) : Bool := e.outcome == .success

end ProbeEnd

/-- A probe that came to an end. -/
structure ProbeRun where
  ended : ProbeEnd
  elapsed : Duration

namespace ProbeRun

/-- The event noted at the end of a probe. -/
def finishedEvent (r : ProbeRun) : Event :=
  ⟨.info, "Probe finished", [
    ("outcome", r.ended.outcome.name), ("metrics", toString r.ended.samples.length),
    ("elapsed_ms", toString r.elapsed.toMilliseconds)]⟩

/-- The text of the samples. -/
def exposition (r : ProbeRun) : Logged String :=
  Exposition.render r.ended.samples r.ended.isSuccess r.elapsed

end ProbeRun

/-- Runs the probe of a `plan` in a `network`, from `state`. -/
def ProbePlan.run {σ : Type} (plan : ProbePlan) (network : Network σ) (state : σ) :
    ProbeRun × σ :=
  let t := (scrape plan.options).run (plan.client.device plan.timeout network) state
  let elapsed := network.elapsed t.state
  -- A report is late when nothing is left of the deadline.
  (⟨.reported t.value (plan.timeout.minus elapsed).isZero, elapsed⟩, t.state)

/-- One step in the life of a probe; a probe may be dropped before it ends. -/
inductive ProbeStep where
  | start
  | finish (run : ProbeRun)
  | drop

namespace Telemetry

/-- Takes in the end of a probe, `run`: its failed routines, its outcome and its duration. -/
def record (t : Telemetry) (run : ProbeRun) : Telemetry :=
  (run.ended.failedRoutines.foldl routineFailed t).observeProbe run.ended.outcome
    (Exposition.secondsOf run.elapsed)

/-- Takes in a step of some probe. -/
def step (t : Telemetry) : ProbeStep → Telemetry
  | .start => t.startProbe
  | .finish run => (t.record run).endProbe
  | .drop => t.endProbe

/-- Takes in the steps `all` of any number of probes. -/
def steps (t : Telemetry) (all : List ProbeStep) : Telemetry := all.foldl step t

end Telemetry
end FirewallProbe
