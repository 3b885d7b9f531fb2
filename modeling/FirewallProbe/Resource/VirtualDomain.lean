import FirewallProbe.Conversion
import FirewallProbe.Measurement
import FirewallProbe.Routine

/-! # Resource usage of virtual domains

The usage of a virtual domain is an object with a few known fields and one entry for each type of
object that the domain may hold. -/

namespace FirewallProbe

/-- The known fields of a virtual domain's usage. -/
structure DomainUsage where
  cpu : Float := 0.0
  memory : Float := 0.0
  setupRate : Float := 0.0
  id : Nat := 0
  deletable : Bool := false

namespace DomainUsage

/-- How the known fields are read. -/
def record : Record Json DomainUsage where
  name := "VdomUsage"
  blank := {}
  fields := [
    .optional "cpu" Decoder.double fun v u => { u with cpu := v },
    .optional "memory" Decoder.double fun v u => { u with memory := v },
    .optional "setup_rate" Decoder.double fun v u => { u with setupRate := v },
    .optional "id" Decoder.word64 fun v u => { u with id := v },
    .optional "deletable" Decoder.bool fun v u => { u with deletable := v }]

/-- The names of the known fields. -/
def fieldNames : List String := ["cpu", "memory", "setup_rate", "id", "deletable"]

def cpuUsage : Family := .gauge "fortigate_vdom_resource_cpu_usage_ratio"
  "Current VDOM CPU usage (0-1)" ["vdom"]

def memoryUsage : Family := .gauge "fortigate_vdom_resource_memory_usage_ratio"
  "Current VDOM memory usage (0-1)" ["vdom"]

def setupRateFamily : Family := .gauge "fortigate_vdom_resource_setup_rate"
  "Current VDOM session setup rate per second" ["vdom"]

/-- What is reported about a virtual domain as a whole. -/
def measurements : List (Measurement DomainUsage) := [
  cpuUsage.of fun u => percentToRatio u.cpu,
  memoryUsage.of fun u => percentToRatio u.memory,
  setupRateFamily.of (·.setupRate)]

end DomainUsage

/-- The usage of one type of object. -/
structure ObjectUsage where
  used : Float := 0.0
  percent : Float := 0.0
  quota : Float := 0.0
  guaranteed : Float := 0.0

namespace ObjectUsage

/-- How the usage of a type of object is read. -/
def record : Record Json ObjectUsage where
  name := "ObjectUsage"
  blank := {}
  fields := [
    .optional "current_usage" Decoder.double fun v u => { u with used := v },
    .optional "usage_percent" Decoder.double fun v u => { u with percent := v },
    .optional "custom_max" Decoder.double fun v u => { u with quota := v },
    .optional "guaranteed" Decoder.double fun v u => { u with guaranteed := v }]

/-- The labels of the metrics of a type of object. -/
def labelNames : List String := ["vdom", "object"]

def usedFamily : Family := .gauge "fortigate_vdom_resource_object_used"
  "Number of objects of a type used by the VDOM" labelNames

def usageRatio : Family := .gauge "fortigate_vdom_resource_object_usage_ratio"
  "Object usage relative to the VDOM quota (0-1)" labelNames

def quotaFamily : Family := .gauge "fortigate_vdom_resource_object_max"
  "Configured object quota for the VDOM, 0 when unlimited" labelNames

def guaranteedFamily : Family := .gauge "fortigate_vdom_resource_object_guaranteed"
  "Guaranteed object count for the VDOM" labelNames

/-- What is reported about a type of object. -/
def measurements : List (Measurement ObjectUsage) := [
  usedFamily.of (·.used),
  usageRatio.of fun u => percentToRatio u.percent,
  quotaFamily.of (·.quota),
  guaranteedFamily.of (·.guaranteed)]

end ObjectUsage

namespace VirtualDomain

/-- The path of the endpoint that lists the usage of all virtual domains. -/
def path : String := "monitor/system/vdom-resource"

/-- The usage of one virtual domain. -/
abbrev Resources := MixedRecord DomainUsage ObjectUsage

/-- Splits the usage `v` of a virtual domain. -/
def readResources (v : Json) : Except SplitError Resources :=
  MixedRecord.decode DomainUsage.fieldNames (Decoder.record DomainUsage.record)
    (Decoder.record ObjectUsage.record) v

/-- The samples of the virtual domain `vdom` with the usage `r`. -/
def samples (vdom : String) (r : Resources) : List Sample :=
  Measurement.samples DomainUsage.measurements [vdom] r.fixed ++
    r.dynamic.entries.flatMap fun (object, usage) =>
      Measurement.samples ObjectUsage.measurements [vdom, object] usage

/-- The samples of all virtual domains, or the error of the first that cannot be split. -/
def samplesOfAll : List (Envelope Json) → Except ProbeError (List Sample)
  | [] => .ok []
  | e :: rest => do
    let resources ← (readResources e.results).mapError (.schema path)
    return samples e.vdom resources ++ (← samplesOfAll rest)

/-- Reports the usage of every virtual domain. -/
def routine : Routine where
  name := "system_vdom_resources"
  collect _ := do
    let envelopes ← Collection.fetch (Envelope.listDecoder Decoder.any) path everyDomain
    liftExcept (samplesOfAll envelopes)
where
  /-- The outcome of a computation that asks nothing. -/
  liftExcept (x : Except ProbeError (List Sample)) : Collection (List Sample) :=
    ExceptT.mk (.done x)

end VirtualDomain
end FirewallProbe
