import FirewallProbe.FanOut
import FirewallProbe.Routine

/-! # BGP neighbours

Each neighbour is reported with the number of its session state, and IPv4 neighbours also with one
indicator for each state. -/

namespace FirewallProbe

/-- A neighbour. -/
structure BgpNeighbor where
  neighborIp : String := ""
  localIp : String := ""
  remoteAs : Nat := 0
  isEnabled : Bool := false
  state : String := ""

namespace BgpNeighbor

/-- How a neighbour is read. -/
def record : Record Json BgpNeighbor where
  name := "Neighbor"
  blank := {}
  fields := [
    .optional "neighbor_ip" Decoder.text fun v n => { n with neighborIp := v },
    .optional "local_ip" Decoder.text fun v n => { n with localIp := v },
    .optional "remote_as" Decoder.word64 fun v n => { n with remoteAs := v },
    .optional "admin_status" Decoder.bool fun v n => { n with isEnabled := v },
    .optional "state" Decoder.text fun v n => { n with state := v }]

/-- Reads the neighbours of all virtual domains. -/
def decoder : Decoder (List (Envelope (List BgpNeighbor))) :=
  Envelope.listDecoder (Decoder.list (Decoder.record record))

/-- The states of a session, in the order in which it passes through them. -/
def states : List String :=
  ["Idle", "Connect", "Active", "OpenSent", "OpenConfirm", "Established"]

/-- The place of `state` among `states`, counted from one; zero for any other text. -/
def stateNumber (state : String) : Nat := ((states.idxOf? state).map (· + 1)).getD 0

/-- The labels of the metric with the number of the state. -/
def infoLabels : List String := ["vdom", "neighbor_ip", "local_ip", "remote_as", "state"]

/-- The help of the metric with the number of the state for a `protocol`; it explains the
numbers. -/
def infoHelp (protocol : String) : String :=
  "Configured bgp neighbor over " ++ protocol ++ ", return state as value (1 - Idle, " ++
    "2 - Connect, 3 - Active, 4 - Open sent, 5 - Open confirm, 6 - Established)"

def ipv4Info : Family := .gauge "fortigate_bgp_neighbor_ipv4_info"
  (infoHelp "ipv4") infoLabels

def ipv6Info : Family := .gauge "fortigate_bgp_neighbor_ipv6_info"
  (infoHelp "ipv6") infoLabels

def ipv4State : Family := .gauge "fortigate_bgp_neighbor_ipv4_state"
  "BGP session state of the ipv4 neighbor" ["vdom", "neighbor_ip", "state"]

def ipv4AdminUp : Family := .gauge "fortigate_bgp_neighbor_ipv4_admin_up"
  "Whether the ipv4 neighbor is administratively enabled" ["vdom", "neighbor_ip"]

/-- The sample of `family` with the number of the state of `n`. -/
def infoSample (family : Family) (vdom : String) (n : BgpNeighbor) : Sample :=
  family.sample (Binary64.ofInt (stateNumber n.state))
    [vdom, n.neighborIp, n.localIp, toString n.remoteAs, n.state]

/-- The samples of `family` with the numbers of all neighbours' states. -/
def infoSamples (family : Family) (envelopes : List (Envelope (List BgpNeighbor))) : List Sample :=
  (Envelope.perResult envelopes).map fun (vdom, n) => infoSample family vdom n

/-- The indicators of the neighbour `n` of `vdom`. -/
def stateSamples (vdom : String) (n : BgpNeighbor) : List Sample :=
  ipv4State.samplePerState [vdom, n.neighborIp] n.state states ++
    [ipv4AdminUp.sample (indicator n.isEnabled) [vdom, n.neighborIp]]

/-- The indicators of all neighbours. -/
def stateSamplesOfAll (envelopes : List (Envelope (List BgpNeighbor))) : List Sample :=
  (Envelope.perResult envelopes).flatMap fun (vdom, n) => stateSamples vdom n

/-- The path of the endpoint that lists IPv4 neighbours. -/
def ipv4Path : String := "monitor/router/bgp/neighbors"

/-- The path of the endpoint that lists IPv6 neighbours. -/
def ipv6Path : String := "monitor/router/bgp/neighbors6"

/-- Reports the state numbers of IPv4 neighbours. -/
def ipv4Routine : Routine :=
  .ofEndpoint "bgp_neighbors_ipv4" (some ⟨6, 0⟩) decoder ipv4Path everyDomain
    (infoSamples ipv4Info)

/-- Reports the state indicators of IPv4 neighbours. -/
def ipv4StateRoutine : Routine :=
  .ofEndpoint "bgp_neighbor_state_ipv4" (some ⟨6, 0⟩) decoder ipv4Path everyDomain
    stateSamplesOfAll

/-- Reports the state numbers of IPv6 neighbours. -/
def ipv6Routine : Routine :=
  .ofEndpoint "bgp_neighbors_ipv6" (some ⟨6, 0⟩) decoder ipv6Path everyDomain
    (infoSamples ipv6Info)

end BgpNeighbor
end FirewallProbe
