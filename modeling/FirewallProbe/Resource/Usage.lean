import FirewallProbe.Conversion
import FirewallProbe.Routine

/-! # Resource usage of the device

The device lists its latest readings of processor, memory, disk and sessions; the first of each
list is reported. -/

namespace FirewallProbe

/-- One reading. -/
structure UsageSample where
  current : Float := 0.0

/-- How a reading is read. -/
def UsageSample.record : Record Json UsageSample where
  name := "UsageSample"
  blank := {}
  fields := [.mandatory "current" Decoder.double fun v s => { s with current := v }]

/-- The latest readings of the device. -/
structure Usage where
  cpu : List UsageSample := []
  memory : List UsageSample := []
  disk : List UsageSample := []
  sessions : List UsageSample := []
  sessions6 : List UsageSample := []
  deriving Inhabited

namespace Usage

/-- How the readings are read. -/
def record : Record Json Usage where
  name := "ResourceUsage"
  blank := {}
  fields :=
    let readings := Decoder.list (Decoder.record UsageSample.record)
    [.optional "cpu" readings fun v u => { u with cpu := v },
      .optional "mem" readings fun v u => { u with memory := v },
      .optional "disk" readings fun v u => { u with disk := v },
      .optional "session" readings fun v u => { u with sessions := v },
      .optional "session6" readings fun v u => { u with sessions6 := v }]

def cpuUsage : Family := .gauge "fortigate_cpu_usage_ratio"
  "Current global CPU usage (0-1)" []

def memoryUsage : Family := .gauge "fortigate_memory_usage_ratio"
  "Current global memory usage (0-1)" []

def diskUsage : Family := .gauge "fortigate_disk_usage_ratio"
  "Current log disk usage (0-1)" []

def currentSessions : Family := .gauge "fortigate_current_sessions"
  "Number of active sessions" ["protocol"]

/-- The sample of `family` for the first of `readings`, if there is one. -/
def first (family : Family) (labels : List String) (convert : Float → Float)
    (readings : List UsageSample) : List Sample :=
  (readings.head?.map fun r => family.sample (convert r.current) labels).toList

/-- The samples of the first readings. -/
def samples (usage : Usage) : List Sample :=
  first cpuUsage [] percentToRatio usage.cpu ++
    first memoryUsage [] percentToRatio usage.memory ++
    first diskUsage [] percentToRatio usage.disk ++
    first currentSessions ["ipv4"] id usage.sessions ++
    first currentSessions ["ipv6"] id usage.sessions6

/-- Reports the usage of the whole device. -/
def routine : Routine :=
  .ofEndpoint "system_resources" none (Envelope.decoder (Decoder.record record))
    "monitor/system/resource/usage" "interval=1-min&scope=global" fun e => samples e.results

end Usage
end FirewallProbe
