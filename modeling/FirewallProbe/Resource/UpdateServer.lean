import FirewallProbe.Conversion
import FirewallProbe.Routine

/-! # Update servers

The servers from which the device takes its updates.  The round-trip time comes as a number or as a
text such as `<1`. -/

namespace FirewallProbe

/-- An update server. -/
structure UpdateServer where
  ip : String := ""
  weight : Float := 0.0
  roundTrip : Json := .null
  packetLoss : Float := 0.0

namespace UpdateServer

/-- How a server is read. -/
def record : Record Json UpdateServer where
  name := "Server"
  blank := {}
  fields := [
    .optional "ip" Decoder.text fun v s => { s with ip := v },
    .optional "weight" Decoder.double fun v s => { s with weight := v },
    .optional "rtt" Decoder.any fun v s => { s with roundTrip := v },
    .optional "packet_loss" Decoder.double fun v s => { s with packetLoss := v }]

/-- The labels of the metrics of a server. -/
def labelNames : List String := ["ip"]

def roundTripSeconds : Family := .gauge "fortigate_fortiguard_server_rtt_seconds"
  "Round-trip time to the FortiGuard server" labelNames

def weightFamily : Family := .gauge "fortigate_fortiguard_server_weight"
  "Selection weight of the FortiGuard server" labelNames

def packetLossTotal : Family := .counter "fortigate_fortiguard_server_packet_loss_total"
  "Packets lost towards the FortiGuard server" labelNames

/-- The samples of the server `s`. -/
def samples (s : UpdateServer) : Logged (List Sample) := do
  let roundTrip ← roundTripOfJson s.roundTrip
  return [
    roundTripSeconds.sample roundTrip [s.ip],
    weightFamily.sample s.weight [s.ip],
    packetLossTotal.sample s.packetLoss [s.ip]]

/-- Reports the update servers. -/
def routine : Routine :=
  .ofEndpointLogged "system_fortiguard_servers" none
    (Envelope.decoder (Decoder.list (Decoder.record record)))
    "monitor/system/fortiguard/server-info" "" fun e => Logged.flatMap samples e.results

end UpdateServer
end FirewallProbe
