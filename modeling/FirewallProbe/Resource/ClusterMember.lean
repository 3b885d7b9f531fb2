import FirewallProbe.Conversion
import FirewallProbe.Measurement
import FirewallProbe.Routine

/-! # Members of a high-availability cluster -/

namespace FirewallProbe

/-- A member of a cluster. -/
structure ClusterMember where
  hostname : String := ""
  serial : String := ""
  sessions : Float := 0.0
  cpuUsage : Float := 0.0
  memoryUsage : Float := 0.0
  networkUsage : Float := 0.0
  packets : Float := 0.0
  bytes : Float := 0.0
  intrusions : Float := 0.0

namespace ClusterMember

/-- How a member is read. -/
def record : Record Json ClusterMember where
  name := "HaMember"
  blank := {}
  fields := [
    .optional "hostname" Decoder.text fun v m => { m with hostname := v },
    .optional "serial_no" Decoder.text fun v m => { m with serial := v },
    .optional "sessions" Decoder.double fun v m => { m with sessions := v },
    .optional "cpu_usage" Decoder.double fun v m => { m with cpuUsage := v },
    .optional "mem_usage" Decoder.double fun v m => { m with memoryUsage := v },
    .optional "net_usage" Decoder.double fun v m => { m with networkUsage := v },
    .optional "tpacket" Decoder.double fun v m => { m with packets := v },
    .optional "tbyte" Decoder.double fun v m => { m with bytes := v },
    .optional "intrusion_detected" Decoder.double fun v m => { m with intrusions := v }]

/-- The labels of the metrics of a member. -/
def labelNames : List String := ["hostname", "serial"]

def info : Family := .gauge "fortigate_ha_member_info"
  "Info metric regarding cluster members" labelNames

def sessionsFamily : Family := .gauge "fortigate_ha_member_sessions"
  "Sessions handled by the cluster member" labelNames

def cpuRatio : Family := .gauge "fortigate_ha_member_cpu_usage_ratio"
  "CPU usage of the cluster member (0-1)" labelNames

def memoryRatio : Family := .gauge "fortigate_ha_member_memory_usage_ratio"
  "Memory usage of the cluster member (0-1)" labelNames

def networkRatio : Family := .gauge "fortigate_ha_member_network_usage_ratio"
  "Network usage of the cluster member (0-1)" labelNames

def packetsTotal : Family := .counter "fortigate_ha_member_packets_total"
  "Packets processed by the cluster member" labelNames

def bytesTotal : Family := .counter "fortigate_ha_member_bytes_total"
  "Bytes processed by the cluster member" labelNames

def intrusionsTotal : Family := .counter "fortigate_ha_member_ips_events_total"
  "IPS events detected by the cluster member" labelNames

/-- What is reported about a member. -/
def measurements : List (Measurement ClusterMember) := [
  info.of fun _ => 1.0,
  sessionsFamily.of (·.sessions),
  cpuRatio.of fun m => percentToRatio m.cpuUsage,
  memoryRatio.of fun m => percentToRatio m.memoryUsage,
  networkRatio.of fun m => percentToRatio m.networkUsage,
  packetsTotal.of (·.packets),
  bytesTotal.of (·.bytes),
  intrusionsTotal.of (·.intrusions)]

/-- The samples of a member. -/
def samples (m : ClusterMember) : List Sample :=
  Measurement.samples measurements [m.hostname, m.serial] m

/-- Reports the members of the cluster. -/
def routine : Routine :=
  .ofEndpoint "system_ha_statistics" none
    (Envelope.decoder (Decoder.list (Decoder.record record)))
    "monitor/system/ha-statistics" "" fun e => e.results.flatMap samples

end ClusterMember
end FirewallProbe
