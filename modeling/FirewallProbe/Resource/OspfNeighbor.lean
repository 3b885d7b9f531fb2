import FirewallProbe.FanOut
import FirewallProbe.Routine

/-! # OSPF neighbours -/

namespace FirewallProbe

/-- A neighbour. -/
structure OspfNeighbor where
  neighborIp : String := ""
  routerId : String := ""
  priority : Float := 0.0
  state : String := ""

namespace OspfNeighbor

/-- How a neighbour is read. -/
def record : Record Json OspfNeighbor where
  name := "Neighbor"
  blank := {}
  fields := [
    .optional "neighbor_ip" Decoder.text fun v n => { n with neighborIp := v },
    .optional "router_id" Decoder.text fun v n => { n with routerId := v },
    .optional "priority" Decoder.double fun v n => { n with priority := v },
    .optional "state" Decoder.text fun v n => { n with state := v }]

/-- The states of an adjacency. -/
def states : List String :=
  ["Down", "Attempt", "Init", "2-Way", "ExStart", "Exchange", "Loading", "Full"]

def stateFamily : Family := .gauge "fortigate_ospf_neighbor_state"
  "Adjacency state of the OSPF neighbor" ["vdom", "neighbor_ip", "router_id", "state"]

def priorityFamily : Family := .gauge "fortigate_ospf_neighbor_priority"
  "Designated router election priority of the OSPF neighbor" ["vdom", "neighbor_ip", "router_id"]

/-- The samples of the neighbour `n` of `vdom`. -/
def samples (vdom : String) (n : OspfNeighbor) : List Sample :=
  stateFamily.samplePerState [vdom, n.neighborIp, n.routerId] n.state states ++
    [priorityFamily.sample n.priority [vdom, n.neighborIp, n.routerId]]

/-- The samples of all neighbours of all virtual domains. -/
def samplesOfAll (envelopes : List (Envelope (List OspfNeighbor))) : List Sample :=
  (Envelope.perResult envelopes).flatMap fun (vdom, n) => samples vdom n

/-- Reports the neighbours. -/
def routine : Routine :=
  .ofEndpoint "ospf_neighbors" (some ⟨6, 4⟩)
    (Envelope.listDecoder (Decoder.list (Decoder.record record)))
    "monitor/router/ospf/neighbors" everyDomain samplesOfAll

end OspfNeighbor
end FirewallProbe
