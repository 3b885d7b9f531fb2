import FirewallProbe.FanOut
import FirewallProbe.Measurement
import FirewallProbe.Routine

/-! # IPsec tunnels

A tunnel has any number of phase 2 selectors; state and traffic belong to the selector. -/

namespace FirewallProbe

/-- A phase 2 selector of a tunnel. -/
structure TunnelSelector where
  name : String := ""
  status : String := ""
  incomingBytes : Float := 0.0
  outgoingBytes : Float := 0.0
  expire : Float := 0.0

/-- How a selector is read. -/
def TunnelSelector.record : Record Json TunnelSelector where
  name := "ProxyId"
  blank := {}
  fields := [
    .optional "p2name" Decoder.text fun v s => { s with name := v },
    .optional "status" Decoder.text fun v s => { s with status := v },
    .optional "incoming_bytes" Decoder.double fun v s => { s with incomingBytes := v },
    .optional "outgoing_bytes" Decoder.double fun v s => { s with outgoingBytes := v },
    .optional "expire" Decoder.double fun v s => { s with expire := v }]

/-- A tunnel. -/
structure IpsecTunnel where
  name : String := ""
  gateway : String := ""
  selectors : List TunnelSelector := []

namespace IpsecTunnel

/-- How a tunnel is read. -/
def record : Record Json IpsecTunnel where
  name := "Tunnel"
  blank := {}
  fields := [
    .optional "name" Decoder.text fun v t => { t with name := v },
    .optional "rgwy" Decoder.text fun v t => { t with gateway := v },
    .optional "proxyid" (Decoder.list (Decoder.record TunnelSelector.record))
      fun v t => { t with selectors := v }]

/-- The states of a selector. -/
def states : List String := ["up", "down"]

/-- The labels of the metrics of a selector. -/
def labelNames : List String := ["vdom", "name", "phase2", "remote_gateway"]

def statusFamily : Family := .gauge "fortigate_ipsec_tunnel_status"
  "Status of the IPsec tunnel phase 2" ["vdom", "name", "phase2", "remote_gateway", "state"]

def receivedBytes : Family := .counter "fortigate_ipsec_tunnel_receive_bytes_total"
  "Total number of bytes received over the IPsec tunnel" labelNames

def transmittedBytes : Family := .counter "fortigate_ipsec_tunnel_transmit_bytes_total"
  "Total number of bytes transmitted over the IPsec tunnel" labelNames

def expireSeconds : Family := .gauge "fortigate_ipsec_tunnel_expire_seconds"
  "Seconds until the phase 2 key expires" labelNames

/-- What is reported about a selector besides its state. -/
def measurements : List (Measurement TunnelSelector) := [
  receivedBytes.of (·.incomingBytes),
  transmittedBytes.of (·.outgoingBytes),
  expireSeconds.of (·.expire)]

/-- The samples of the selector `s` under `labels`. -/
def selectorSamples (labels : List String) (s : TunnelSelector) : List Sample :=
  statusFamily.samplePerState labels s.status states ++ Measurement.samples measurements labels s

/-- The samples of the tunnel `t` of `vdom`. -/
def samples (vdom : String) (t : IpsecTunnel) : List Sample :=
  t.selectors.flatMap fun s => selectorSamples [vdom, t.name, s.name, t.gateway] s

/-- The samples of all tunnels of all virtual domains. -/
def samplesOfAll (envelopes : List (Envelope (List IpsecTunnel))) : List Sample :=
  (Envelope.perResult envelopes).flatMap fun (vdom, t) => samples vdom t

/-- Reports the tunnels. -/
def routine : Routine :=
  .ofEndpoint "ipsec_tunnels" none
    (Envelope.listDecoder (Decoder.list (Decoder.record record)))
    "monitor/vpn/ipsec" everyDomain samplesOfAll

end IpsecTunnel
end FirewallProbe
