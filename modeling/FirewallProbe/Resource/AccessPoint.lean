import FirewallProbe.Conversion
import FirewallProbe.FanOut
import FirewallProbe.Measurement
import FirewallProbe.Routine

/-! # Wireless access points

Each access point is followed by its radios.  Memory is given in kibibytes. -/

namespace FirewallProbe

/-- A radio of an access point. -/
structure Radio where
  number : Nat := 0
  clients : Float := 0.0
  utilization : Option Float := none
  interferingPoints : Float := 0.0
  rxBytes : Float := 0.0
  txBytes : Float := 0.0

namespace Radio

/-- How a radio is read. -/
def record : Record Json Radio where
  name := "Radio"
  blank := {}
  fields := [
    .optional "radio_id" Decoder.word32 fun v r => { r with number := v },
    .optional "client_count" Decoder.double fun v r => { r with clients := v },
    .optional "channel_utilization_percent" (Decoder.nullable Decoder.double)
      fun v r => { r with utilization := v },
    .optional "interfering_aps" Decoder.double fun v r => { r with interferingPoints := v },
    .optional "bandwidth_rx" Decoder.double fun v r => { r with rxBytes := v },
    .optional "bandwidth_tx" Decoder.double fun v r => { r with txBytes := v }]

/-- The labels of the metrics of a radio. -/
def labelNames : List String := ["vdom", "ap_name", "serial", "radio_id"]

def clientsFamily : Family := .gauge "fortigate_wifi_radio_clients"
  "Number of clients associated with the radio" labelNames

def utilizationRatio : Family := .gauge "fortigate_wifi_radio_channel_utilization_ratio"
  "Channel utilization seen by the radio (0-1)" labelNames

def interfering : Family := .gauge "fortigate_wifi_radio_interfering_aps"
  "Number of interfering access points seen by the radio" labelNames

def rxBytesTotal : Family := .counter "fortigate_wifi_radio_receive_bytes_total"
  "Bytes received by the radio" labelNames

def txBytesTotal : Family := .counter "fortigate_wifi_radio_transmit_bytes_total"
  "Bytes transmitted by the radio" labelNames

/-- What is reported about a radio. -/
def measurements : List (Measurement Radio) := [
  clientsFamily.of (·.clients),
  utilizationRatio.ofOption fun r => r.utilization.map percentToRatio,
  interfering.of (·.interferingPoints),
  rxBytesTotal.of (·.rxBytes),
  txBytesTotal.of (·.txBytes)]

end Radio

/-- An access point; `state` is its authorization, `status` that of its control channel. -/
structure AccessPoint where
  name : String := ""
  serial : String := ""
  state : String := ""
  status : String := ""
  clients : Float := 0.0
  cpuUsage : Option Float := none
  memoryFree : Option Float := none
  memoryTotal : Option Float := none
  radios : List Radio := []

namespace AccessPoint

/-- How an access point is read. -/
def record : Record Json AccessPoint where
  name := "AccessPoint"
  blank := {}
  fields := [
    .optional "name" Decoder.text fun v p => { p with name := v },
    .optional "serial" Decoder.text fun v p => { p with serial := v },
    .optional "state" Decoder.text fun v p => { p with state := v },
    .optional "status" Decoder.text fun v p => { p with status := v },
    .optional "clients" Decoder.double fun v p => { p with clients := v },
    .optional "cpu_usage" (Decoder.nullable Decoder.double) fun v p => { p with cpuUsage := v },
    .optional "mem_free" (Decoder.nullable Decoder.double) fun v p => { p with memoryFree := v },
    .optional "mem_total" (Decoder.nullable Decoder.double)
      fun v p => { p with memoryTotal := v },
    .optional "radio" (Decoder.list (Decoder.record Radio.record))
      fun v p => { p with radios := v }]

/-- The states of authorization. -/
def states : List String := ["authorized", "unauthorized", "discovered", "disabled"]

/-- The labels of the metrics of an access point. -/
def labelNames : List String := ["vdom", "ap_name", "serial"]

def joinState : Family := .gauge "fortigate_wifi_access_point_join_state"
  "Authorization state of the access point on the controller"
  ["vdom", "ap_name", "serial", "state"]

def connected : Family := .gauge "fortigate_wifi_access_point_connected"
  "Whether the access point control channel is connected" labelNames

def clientsFamily : Family := .gauge "fortigate_wifi_access_point_clients"
  "Number of clients associated with the access point" labelNames

def cpuRatio : Family := .gauge "fortigate_wifi_access_point_cpu_usage_ratio"
  "CPU usage of the access point (0-1)" labelNames

def memoryFreeBytes : Family := .gauge "fortigate_wifi_access_point_memory_free_bytes"
  "Free memory of the access point" labelNames

def memoryTotalBytes : Family := .gauge "fortigate_wifi_access_point_memory_bytes"
  "Total memory of the access point" labelNames

/-- What is reported about an access point besides its state. -/
def measurements : List (Measurement AccessPoint) := [
  connected.of fun p => indicator (p.status == "connected"),
  clientsFamily.of (·.clients),
  cpuRatio.ofOption fun p => p.cpuUsage.map percentToRatio,
  memoryFreeBytes.ofOption fun p => p.memoryFree.map kibibytesToBytes,
  memoryTotalBytes.ofOption fun p => p.memoryTotal.map kibibytesToBytes]

/-- The samples of the access point `p` of `vdom` and of its radios. -/
def samples (vdom : String) (p : AccessPoint) : List Sample :=
  let labels := [vdom, p.name, p.serial]
  joinState.samplePerState labels p.state states ++
    Measurement.samples measurements labels p ++
    p.radios.flatMap fun r =>
      Measurement.samples Radio.measurements (labels ++ [toString r.number]) r

/-- The samples of all access points of all virtual domains. -/
def samplesOfAll (envelopes : List (Envelope (List AccessPoint))) : List Sample :=
  (Envelope.perResult envelopes).flatMap fun (vdom, p) => samples vdom p

/-- Reports the access points. -/
def routine : Routine :=
  .ofEndpoint "wifi_managed_aps" (some ⟨6, 2⟩)
    (Envelope.listDecoder (Decoder.list (Decoder.record record)))
    "monitor/wifi/managed_ap" everyDomain samplesOfAll

end AccessPoint
end FirewallProbe
