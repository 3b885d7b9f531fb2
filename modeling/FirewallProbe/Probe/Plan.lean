import FirewallProbe.Config.Basic
import FirewallProbe.Client

/-! # Planning a probe

A request names its target.  `ProbePlan.decide` finds the target's settings or says why there is
nothing to probe; `Deadlines.of?` works out by when the probe must be over. -/

namespace FirewallProbe

/-- A probe that can be made. -/
structure ProbePlan where
  url : String
  target : Target
  options : ProbeOptions
  timeout : Duration
  requestTimeout : Duration

/-- Why there is nothing to probe. -/
inductive ProbeRefusal where
  | noTarget
  | unknownTarget (name : String)
  | unusable (fault : ConfigFault)

namespace ProbePlan

/-- The plan for a `target` that may be missing; a blank one counts as missing. -/
def decide (c : Config) (target : Option String) : Except ProbeRefusal ProbePlan :=
  match target.filter fun t => !(Text.trimChars t.toList).isEmpty with
  | none => .error .noTarget
  | some name =>
    match c.target? name with
    | none => .error (.unknownTarget name)
    | some (url, target) =>
      match target.probeOptions c.scrape with
      | .error fault => .error (.unusable fault)
      | .ok options =>
        .ok { url, target, options, timeout := c.timeout, requestTimeout := c.requestTimeout }

/-- How a probe with this `plan` asks its device. -/
def client (plan : ProbePlan) : Client where
  baseUrl := plan.url
  token := plan.target.token
  requestTimeout := plan.requestTimeout

end ProbePlan

/-- By when a probe must be over. -/
structure Deadlines where
  /-- When the last request must have been sent. -/
  requests : Instant
  /-- How long the probe is waited for. -/
  joinLimit : Duration

/-- The time granted after the deadline, so that a request cut short can still be reported. -/
def joinGrace : Duration := .ofSeconds 1

/-- The deadlines of a probe that `started` then, if they can be represented. -/
def Deadlines.of? (started : Instant) (timeout : Duration) : Option Deadlines := do
  let requests ← started.add? timeout
  let joinLimit ← timeout.add? joinGrace
  return ⟨requests, joinLimit⟩

end FirewallProbe
