import FirewallProbe.Binary64.NearShortest
import FirewallProbe.Binary64.Text
import FirewallProbe.Dict

/-! # Measuring the exporter itself

`Telemetry` counts probes by outcome, failures by routine and the probes under way, and sorts the
durations of probes into buckets.  `Telemetry.render` writes it all as text, one line per series. -/

namespace FirewallProbe

/-- How a probe ended. -/
inductive ProbeOutcome where
  | success
  | failure
  | timeout
  deriving DecidableEq, Repr

/-- The name of an outcome. -/
def ProbeOutcome.name : ProbeOutcome → String
  | .success => "Success"
  | .failure => "Failure"
  | .timeout => "Timeout"

/-- The number of probes with each outcome. -/
structure OutcomeCounts where
  success : Nat := 0
  failure : Nat := 0
  timeout : Nat := 0
  deriving DecidableEq, Repr

namespace OutcomeCounts

/-- The number of probes with an outcome. -/
def get (c : OutcomeCounts) : ProbeOutcome → Nat
  | .success => c.success
  | .failure => c.failure
  | .timeout => c.timeout

/-- Counts one more probe. -/
def add (c : OutcomeCounts) : ProbeOutcome → OutcomeCounts
  | .success => { c with success := c.success + 1 }
  | .failure => { c with failure := c.failure + 1 }
  | .timeout => { c with timeout := c.timeout + 1 }

theorem get_add (c : OutcomeCounts) (a b : ProbeOutcome) :
    (c.add a).get b = c.get b + if a = b then 1 else 0 := by
  cases a <;> cases b <;> rfl

end OutcomeCounts

/-- A bucket counts the values up to its bound that are above the bounds before it. -/
structure Bucket where
  bound : Float
  count : Nat

/-- Values sorted into buckets, with their sum and their number. -/
structure Histogram where
  buckets : List Bucket
  sum : Float
  count : Nat

namespace Histogram

/-- The largest finite double. -/
def greatest : Float := Float.ofBits 0x7FEFFFFFFFFFFFFF

/-- A histogram without values for `bounds`; a last bucket takes everything finite above them. -/
def empty (bounds : List Float) : Histogram :=
  ⟨(bounds ++ [greatest]).map fun bound => ⟨bound, 0⟩, 0.0, 0⟩

/-- Counts `value` in the first bucket that reaches it, if any does. -/
def countIn (value : Float) : List Bucket → List Bucket
  | [] => []
  | b :: rest =>
    if value ≤ b.bound then { b with count := b.count + 1 } :: rest
    else b :: countIn value rest

/-- Takes in a `value`. -/
def observe (h : Histogram) (value : Float) : Histogram :=
  ⟨countIn value h.buckets, h.sum + value, h.count + 1⟩

end Histogram

/-- What the exporter knows about itself. -/
structure Telemetry where
  probes : OutcomeCounts := {}
  durations : Histogram := .empty [0.25, 0.5, 1.0, 2.0, 4.0, 8.0, 16.0, 32.0]
  routineFailures : Dict Nat := Dict.empty
  inFlight : Int := 0

namespace Telemetry

/-- Takes in the end of a probe with this `outcome`, which took so many `seconds`. -/
def observeProbe (t : Telemetry) (outcome : ProbeOutcome) (seconds : Float) : Telemetry :=
  { t with probes := t.probes.add outcome, durations := t.durations.observe seconds }

/-- The number of failures of a `routine`. -/
def failuresOf (t : Telemetry) (routine : String) : Nat := (t.routineFailures.find? routine).getD 0

/-- Counts a failure of a `routine`. -/
def routineFailed (t : Telemetry) (routine : String) : Telemetry :=
  { t with routineFailures := t.routineFailures.insert routine (t.failuresOf routine + 1) }

/-- Counts a probe as under way. -/
def startProbe (t : Telemetry) : Telemetry := { t with inFlight := t.inFlight + 1 }

/-- Counts a probe as no longer under way. -/
def endProbe (t : Telemetry) : Telemetry := { t with inFlight := t.inFlight - 1 }

theorem failuresOf_routineFailed (t : Telemetry) (routine other : String) :
    (t.routineFailed routine).failuresOf other =
      t.failuresOf other + if routine = other then 1 else 0 := by
  unfold routineFailed
  simp only [failuresOf, Dict.find?_insert]
  split
  · next h => subst h; simp
  · simp

/-! ## Text -/

/-- What every name starts with. -/
def namePrefix : String := "fortigate_exporter_"

/-- Doubles are written as a short decimal, positionally with up to 21 digits before the point and
up to five zeros after it. -/
def floatStyle : Binary64.Style where
  decimal := Binary64.nearShortest
  wholeDigits := 21
  leadingZeros := 6
  plus := false

/-- The double `x` in the text. -/
def floatText (x : Float) : String := Binary64.styledText floatStyle x

/-- The two lines that open the family `name`. -/
def headerLines (name help kind : String) : List String := [
  s!"# HELP {namePrefix}{name} {help}.",
  s!"# TYPE {namePrefix}{name} {kind}"]

/-- The line of a series with the one label `key`, whose `value` is written as it is. -/
def labelledLine (name key label value : String) : String :=
  s!"{namePrefix}{name}\x7b{key}=\"{label}\"\x7d {value}"

/-- The `lines` of counters in the order of their text. -/
def sortedLines (lines : List String) : List String := lines.mergeSort fun a b => decide (a ≤ b)

/-- The lines that count probes; an outcome appears once a probe had it. -/
def probeLines (t : Telemetry) : List String :=
  headerLines "probes" "Probes run, by outcome" "counter" ++
    sortedLines ([ProbeOutcome.failure, .success, .timeout].filterMap fun outcome =>
      if t.probes.get outcome = 0 then none
      else some (labelledLine "probes_total" "outcome" outcome.name
        (toString (t.probes.get outcome))))

/-- The `bound` of a bucket; the last one has none. -/
def boundText (bound : Float) : String :=
  if bound == Histogram.greatest then "+Inf" else floatText bound

/-- The lines of buckets, each with the number of values up to its bound; `counted` values are in
the buckets before them. -/
def bucketLines (counted : Nat) : List Bucket → List String
  | [] => []
  | b :: rest =>
    let counted := counted + b.count
    labelledLine "probe_duration_seconds_bucket" "le" (boundText b.bound) (toString counted) ::
      bucketLines counted rest

/-- The lines about durations. -/
def durationLines (t : Telemetry) : List String :=
  headerLines "probe_duration_seconds" "Time spent probing a target" "histogram" ++ [
    s!"{namePrefix}probe_duration_seconds_sum {floatText t.durations.sum}",
    s!"{namePrefix}probe_duration_seconds_count {t.durations.count}"] ++
    bucketLines 0 t.durations.buckets

/-- The lines that count failures. -/
def failureLines (t : Telemetry) : List String :=
  headerLines "routine_failures" "Collection routines that failed, by routine" "counter" ++
    sortedLines (t.routineFailures.entries.map fun (routine, count) =>
      labelledLine "routine_failures_total" "routine" routine (toString count))

/-- The lines about probes under way. -/
def inFlightLines (t : Telemetry) : List String :=
  headerLines "probes_in_flight" "Probes currently running" "gauge" ++
    [s!"{namePrefix}probes_in_flight {t.inFlight}"]

/-- All lines. -/
def lines (t : Telemetry) : List String :=
  t.probeLines ++ t.durationLines ++ t.failureLines ++ t.inFlightLines ++ ["# EOF"]

/-- The whole text. -/
def render (t : Telemetry) : String := String.join (t.lines.map (· ++ "\n"))

end Telemetry
end FirewallProbe
