import FirewallProbe.Conversion
import FirewallProbe.Measurement
import FirewallProbe.Routine

/-! # Network interfaces -/

namespace FirewallProbe

/-- A network interface; `parent` is the interface that a VLAN or an aggregate member belongs to,
and `speed` counts megabits per second. -/
structure Interface where
  aliasName : String := ""
  link : Bool := false
  speed : Float := 0.0
  txPackets : Float := 0.0
  rxPackets : Float := 0.0
  txBytes : Float := 0.0
  rxBytes : Float := 0.0
  txErrors : Float := 0.0
  rxErrors : Float := 0.0
  parent : String := ""

namespace Interface

/-- How an interface is read. -/
def record : Record Json Interface where
  name := "Interface"
  blank := {}
  fields := [
    .optional "alias" Decoder.text fun v i => { i with aliasName := v },
    .optional "link" Decoder.bool fun v i => { i with link := v },
    .optional "speed" Decoder.double fun v i => { i with speed := v },
    .optional "tx_packets" Decoder.double fun v i => { i with txPackets := v },
    .optional "rx_packets" Decoder.double fun v i => { i with rxPackets := v },
    .optional "tx_bytes" Decoder.double fun v i => { i with txBytes := v },
    .optional "rx_bytes" Decoder.double fun v i => { i with rxBytes := v },
    .optional "tx_errors" Decoder.double fun v i => { i with txErrors := v },
    .optional "rx_errors" Decoder.double fun v i => { i with rxErrors := v },
    .optional "interface" Decoder.text fun v i => { i with parent := v }]

/-- The labels of the metrics of an interface. -/
def labelNames : List String := ["vdom", "name", "alias", "parent"]

def linkUp : Family := .gauge "fortigate_interface_link_up"
  "Whether the link is up or not (1 = up)" labelNames

def speedFamily : Family := .gauge "fortigate_interface_speed_bps"
  "Speed negotiated on the interface in bits/s" labelNames

def txPacketsTotal : Family := .counter "fortigate_interface_transmit_packets_total"
  "Number of packets transmitted on the interface" labelNames

def rxPacketsTotal : Family := .counter "fortigate_interface_receive_packets_total"
  "Number of packets received on the interface" labelNames

def txBytesTotal : Family := .counter "fortigate_interface_transmit_bytes_total"
  "Number of bytes transmitted on the interface" labelNames

def rxBytesTotal : Family := .counter "fortigate_interface_receive_bytes_total"
  "Number of bytes received on the interface" labelNames

def txErrorsTotal : Family := .counter "fortigate_interface_transmit_errors_total"
  "Number of transmission errors detected on the interface" labelNames

def rxErrorsTotal : Family := .counter "fortigate_interface_receive_errors_total"
  "Number of reception errors detected on the interface" labelNames

/-- What is reported about an interface. -/
def measurements : List (Measurement Interface) := [
  linkUp.of fun i => indicator i.link,
  speedFamily.of fun i => mbpsToBps i.speed,
  txPacketsTotal.of (·.txPackets),
  rxPacketsTotal.of (·.rxPackets),
  txBytesTotal.of (·.txBytes),
  rxBytesTotal.of (·.rxBytes),
  txErrorsTotal.of (·.txErrors),
  rxErrorsTotal.of (·.rxErrors)]

/-- The samples of the interface `i`, called `name`, of `vdom`. -/
def samples (vdom name : String) (i : Interface) : List Sample :=
  Measurement.samples measurements [vdom, name, i.aliasName, i.parent] i

/-- The samples of all interfaces of all virtual domains. -/
def samplesOfAll (envelopes : List (Envelope (Dict Interface))) : List Sample :=
  envelopes.flatMap fun e => e.results.entries.flatMap fun (name, i) => samples e.vdom name i

/-- Reports the interfaces. -/
def routine : Routine :=
  .ofEndpoint "interfaces" none
    (Envelope.listDecoder (Decoder.dict (Decoder.record record)))
    "monitor/system/interface/select" (everyDomain ++ "&include_vlan=true&include_aggregate=true")
    samplesOfAll

end Interface
end FirewallProbe
