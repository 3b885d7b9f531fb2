import FirewallProbe.Conversion
import FirewallProbe.FanOut
import FirewallProbe.Measurement
import FirewallProbe.Routine

/-! # Health of links

Link monitors and SD-WAN health checks report the same measurements of a link, each under its own
families of metrics.  A measurement that is missing is reported as NaN, so that a link keeps the
same series whatever its state. -/

namespace FirewallProbe

/-- What a probe found about a link. -/
structure LinkHealth where
  status : String := ""
  latency : Option Float := none
  jitter : Option Float := none
  packetLoss : Option Float := none
  packetsSent : Option Float := none
  packetsReceived : Option Float := none
  sessions : Option Float := none
  txBandwidth : Option Float := none
  rxBandwidth : Option Float := none
  stateChanged : Option Float := none

/-- How the health of a link is read. -/
def LinkHealth.record : Record Json LinkHealth where
  name := "HealthSample"
  blank := {}
  fields :=
    let measured := Decoder.nullable Decoder.double
    [.optional "status" Decoder.text fun v s => { s with status := v },
      .optional "latency" measured fun v s => { s with latency := v },
      .optional "jitter" measured fun v s => { s with jitter := v },
      .optional "packet_loss" measured fun v s => { s with packetLoss := v },
      .optional "packet_sent" measured fun v s => { s with packetsSent := v },
      .optional "packet_received" measured fun v s => { s with packetsReceived := v },
      .optional "session" measured fun v s => { s with sessions := v },
      .optional "tx_bandwidth" measured fun v s => { s with txBandwidth := v },
      .optional "rx_bandwidth" measured fun v s => { s with rxBandwidth := v },
      .optional "state_changed" measured fun v s => { s with stateChanged := v }]

/-- The families that report the health of one kind of link. -/
structure LinkFamilies where
  /-- The states that a link of this kind may be in. -/
  states : List String
  status : Family
  latency : Family
  jitter : Family
  packetLoss : Family
  packetsSent : Family
  packetsReceived : Family
  sessions : Family
  txBandwidth : Family
  rxBandwidth : Family
  stateChanged : Family

namespace LinkFamilies

/-- What is reported about a link besides its state. -/
def measurements (f : LinkFamilies) : List (Measurement LinkHealth) := [
  f.latency.of fun s => millisToSeconds (orNotMeasured s.latency),
  f.jitter.of fun s => millisToSeconds (orNotMeasured s.jitter),
  f.packetLoss.of fun s => percentToRatio (orNotMeasured s.packetLoss),
  f.packetsSent.of fun s => orNotMeasured s.packetsSent,
  f.packetsReceived.of fun s => orNotMeasured s.packetsReceived,
  f.sessions.of fun s => orNotMeasured s.sessions,
  f.txBandwidth.of fun s => mbpsToBps (orNotMeasured s.txBandwidth),
  f.rxBandwidth.of fun s => mbpsToBps (orNotMeasured s.rxBandwidth),
  f.stateChanged.of fun s => orNotMeasured s.stateChanged]

/-- The samples of the link `s` under `labels`, in the families `f`. -/
def samples (f : LinkFamilies) (labels : List String) (s : LinkHealth) : List Sample :=
  f.status.samplePerState labels s.status f.states ++
    Measurement.samples f.measurements labels s

/-- Links by the name of their monitor and then of their interface. -/
abbrev Links := Dict (Dict LinkHealth)

/-- The samples of all links of all virtual domains, in the families `f`. -/
def samplesOfAll (f : LinkFamilies) (envelopes : List (Envelope Links)) : List Sample :=
  envelopes.flatMap fun e =>
    e.results.entries.flatMap fun (monitor, links) =>
      links.entries.flatMap fun (interface, s) => f.samples [e.vdom, monitor, interface] s

/-- The routine `name` that reports the links of the endpoint `path` in the families `f`. -/
def routine (f : LinkFamilies) (name path : String) : Routine :=
  .ofEndpoint name none
    (Envelope.listDecoder (Decoder.dict (Decoder.dict (Decoder.record LinkHealth.record))))
    path everyDomain f.samplesOfAll

end LinkFamilies

namespace LinkMonitor

/-- The labels of a monitored link. -/
def labelNames : List String := ["vdom", "monitor", "interface"]

/-- The families of monitored links. -/
def families : LinkFamilies where
  states := ["up", "down", "die"]
  status := .gauge "fortigate_link_status"
    "Signals the status of the link" ["vdom", "monitor", "interface", "state"]
  latency := .gauge "fortigate_link_latency_seconds"
    "Average latency of the link over the monitor interval" labelNames
  jitter := .gauge "fortigate_link_latency_jitter_seconds"
    "Average latency jitter of the link over the monitor interval" labelNames
  packetLoss := .gauge "fortigate_link_packet_loss_ratio"
    "Percentage of packets lost on the link (0-1)" labelNames
  packetsSent := .counter "fortigate_link_packet_sent_total"
    "Number of probe packets sent" labelNames
  packetsReceived := .counter "fortigate_link_packet_received_total"
    "Number of probe packets received" labelNames
  sessions := .gauge "fortigate_link_active_sessions"
    "Number of sessions using the link" labelNames
  txBandwidth := .gauge "fortigate_link_bandwidth_tx_bps"
    "Transmit bandwidth of the link" labelNames
  rxBandwidth := .gauge "fortigate_link_bandwidth_rx_bps"
    "Receive bandwidth of the link" labelNames
  stateChanged := .gauge "fortigate_link_status_change_time_seconds"
    "Unix time of the last status change of the link" labelNames

/-- Reports the links that a link monitor watches. -/
def routine : Routine := families.routine "system_link_monitor" "monitor/system/link-monitor"

end LinkMonitor

namespace WanHealth

/-- The labels of an SD-WAN member. -/
def labelNames : List String := ["vdom", "sla", "interface"]

/-- The families of SD-WAN members. -/
def families : LinkFamilies where
  states := ["up", "down", "error"]
  status := .gauge "fortigate_virtual_wan_status"
    "Status of the SD-WAN member for the health check" ["vdom", "sla", "interface", "state"]
  latency := .gauge "fortigate_virtual_wan_latency_seconds"
    "Measured latency of the SD-WAN member" labelNames
  jitter := .gauge "fortigate_virtual_wan_jitter_seconds"
    "Measured latency jitter of the SD-WAN member" labelNames
  packetLoss := .gauge "fortigate_virtual_wan_packet_loss_ratio"
    "Measured packet loss of the SD-WAN member (0-1)" labelNames
  packetsSent := .counter "fortigate_virtual_wan_packet_sent_total"
    "Probe packets sent through the SD-WAN member" labelNames
  packetsReceived := .counter "fortigate_virtual_wan_packet_received_total"
    "Probe packets received through the SD-WAN member" labelNames
  sessions := .gauge "fortigate_virtual_wan_active_sessions"
    "Active sessions on the SD-WAN member" labelNames
  txBandwidth := .gauge "fortigate_virtual_wan_bandwidth_tx_bps"
    "Transmit bandwidth of the SD-WAN member" labelNames
  rxBandwidth := .gauge "fortigate_virtual_wan_bandwidth_rx_bps"
    "Receive bandwidth of the SD-WAN member" labelNames
  stateChanged := .gauge "fortigate_virtual_wan_status_change_time_seconds"
    "Unix time of the last status change of the SD-WAN member" labelNames

/-- Reports the members of SD-WAN health checks. -/
def routine : Routine :=
  families.routine "virtual_wan_health" "monitor/virtual-wan/health-check"

end WanHealth
end FirewallProbe
