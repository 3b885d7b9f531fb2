import FirewallProbe.Correlation
import FirewallProbe.FanOut
import FirewallProbe.Measurement
import FirewallProbe.Routine

/-! # Ports of managed switches

A switch lists the configuration of its ports and keeps their counters by port name; the state of
a port is joined to its counters by that name, within one switch. -/

namespace FirewallProbe

/-- The configuration of a port. -/
structure PortConfig where
  interface : String := ""
  status : String := ""

/-- How the configuration of a port is read. -/
def PortConfig.record : Record Json PortConfig where
  name := "Port"
  blank := {}
  fields := [
    .optional "interface" Decoder.text fun v p => { p with interface := v },
    .optional "status" Decoder.text fun v p => { p with status := v }]

/-- The counters of a port. -/
structure PortCounters where
  txBytes : Float := 0.0
  rxBytes : Float := 0.0
  txPackets : Float := 0.0
  rxPackets : Float := 0.0
  txErrors : Float := 0.0
  rxErrors : Float := 0.0
  crcAlignments : Float := 0.0

namespace PortCounters

/-- How the counters of a port are read. -/
def record : Record Json PortCounters where
  name := "PortStats"
  blank := {}
  fields := [
    .optional "tx_bytes" Decoder.double fun v p => { p with txBytes := v },
    .optional "rx_bytes" Decoder.double fun v p => { p with rxBytes := v },
    .optional "tx_packets" Decoder.double fun v p => { p with txPackets := v },
    .optional "rx_packets" Decoder.double fun v p => { p with rxPackets := v },
    .optional "tx_errors" Decoder.double fun v p => { p with txErrors := v },
    .optional "rx_errors" Decoder.double fun v p => { p with rxErrors := v },
    .optional "crc_alignments" Decoder.double fun v p => { p with crcAlignments := v }]

/-- The labels of the metrics of a port. -/
def labelNames : List String := ["vdom", "switch_name", "serial", "port"]

def txBytesTotal : Family := .counter "fortigate_managed_switch_tx_bytes_total"
  "Bytes transmitted on the switch port" labelNames

def rxBytesTotal : Family := .counter "fortigate_managed_switch_rx_bytes_total"
  "Bytes received on the switch port" labelNames

def txPacketsTotal : Family := .counter "fortigate_managed_switch_tx_packets_total"
  "Packets transmitted on the switch port" labelNames

def rxPacketsTotal : Family := .counter "fortigate_managed_switch_rx_packets_total"
  "Packets received on the switch port" labelNames

def txErrorsTotal : Family := .counter "fortigate_managed_switch_tx_errors_total"
  "Transmit errors on the switch port" labelNames

def rxErrorsTotal : Family := .counter "fortigate_managed_switch_rx_errors_total"
  "Receive errors on the switch port" labelNames

def crcAlignmentsTotal : Family := .counter "fortigate_managed_switch_crc_alignments_total"
  "CRC and alignment errors on the switch port" labelNames

/-- What is reported about a port besides its state. -/
def measurements : List (Measurement PortCounters) := [
  txBytesTotal.of (·.txBytes),
  rxBytesTotal.of (·.rxBytes),
  txPacketsTotal.of (·.txPackets),
  rxPacketsTotal.of (·.rxPackets),
  txErrorsTotal.of (·.txErrors),
  rxErrorsTotal.of (·.rxErrors),
  crcAlignmentsTotal.of (·.crcAlignments)]

end PortCounters

/-- A managed switch. -/
structure ManagedSwitch where
  name : String := ""
  serial : String := ""
  ports : List PortConfig := []
  counters : Dict PortCounters := Dict.empty

namespace ManagedSwitch

/-- How a switch is read. -/
def record : Record Json ManagedSwitch where
  name := "ManagedSwitch"
  blank := {}
  fields := [
    .optional "name" Decoder.text fun v s => { s with name := v },
    .optional "serial" Decoder.text fun v s => { s with serial := v },
    .optional "ports" (Decoder.list (Decoder.record PortConfig.record))
      fun v s => { s with ports := v },
    .optional "port_stats" (Decoder.dict (Decoder.record PortCounters.record))
      fun v s => { s with counters := v }]

/-- The states of a port. -/
def portStates : List String := ["up", "down"]

def portStatus : Family := .gauge "fortigate_managed_switch_port_status"
  "Link status of the switch port" ["vdom", "switch_name", "serial", "port", "state"]

/-- The samples of a port with these `counters`; without `config` its state is unknown. -/
def portSamples (labels : List String) (counters : PortCounters) (config : Option PortConfig) :
    List Sample :=
  portStatus.samplePerState labels ((config.map (·.status)).getD "") portStates ++
    Measurement.samples PortCounters.measurements labels counters

/-- The samples of the switch `s` of `vdom`. -/
def samples (vdom : String) (s : ManagedSwitch) : Logged (List Sample) := do
  let index ← CorrelationIndex.build (·.interface) s.ports
  return (correlate s.counters.entries index (·.1)).flatMap fun ((port, counters), config) =>
    portSamples [vdom, s.name, s.serial, port] counters config

/-- The samples of all switches of all virtual domains. -/
def samplesOfAll (envelopes : List (Envelope (List ManagedSwitch))) : Logged (List Sample) :=
  Logged.flatMap (fun (vdom, s) => samples vdom s) (Envelope.perResult envelopes)

/-- Reports the ports of managed switches. -/
def routine : Routine :=
  .ofEndpointLogged "switch_ports" none
    (Envelope.listDecoder (Decoder.list (Decoder.record record)))
    "monitor/switch-controller/managed-switch" everyDomain samplesOfAll

end ManagedSwitch
end FirewallProbe
