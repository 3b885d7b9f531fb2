import FirewallProbe.Correlation
import FirewallProbe.Measurement
import FirewallProbe.Routine

/-! # Traffic of firewall policies

Statistics know a policy by its number and its identifier; the name of the policy stands in the
configuration and is joined by the identifier.  Firmware that keeps the policies of both protocols
in one table has one endpoint for both, other firmware one for each. -/

namespace FirewallProbe

/-- The configuration of a policy. -/
structure PolicyConfig where
  uuid : String := ""
  name : String := ""

/-- How the configuration of a policy is read. -/
def PolicyConfig.record : Record Json PolicyConfig where
  name := "PolicyConfig"
  blank := {}
  fields := [
    .optional "uuid" Decoder.text fun v c => { c with uuid := v },
    .optional "name" Decoder.text fun v c => { c with name := v }]

/-- The traffic of a policy. -/
structure PolicyTraffic where
  number : Nat := 0
  uuid : Option String := none
  activeSessions : Float := 0.0
  bytes : Float := 0.0
  packets : Float := 0.0
  hits : Float := 0.0
  softwareBytes : Float := 0.0
  asicBytes : Float := 0.0

namespace PolicyTraffic

/-- How the traffic of a policy is read. -/
def record : Record Json PolicyTraffic where
  name := "PolicyStats"
  blank := {}
  fields := [
    .optional "policyid" Decoder.word64 fun v p => { p with number := v },
    .optional "uuid" (Decoder.nullable Decoder.text) fun v p => { p with uuid := v },
    .optional "active_sessions" Decoder.double fun v p => { p with activeSessions := v },
    .optional "bytes" Decoder.double fun v p => { p with bytes := v },
    .optional "packets" Decoder.double fun v p => { p with packets := v },
    .optional "hit_count" Decoder.double fun v p => { p with hits := v },
    .optional "software_bytes" Decoder.double fun v p => { p with softwareBytes := v },
    .optional "asic_bytes" Decoder.double fun v p => { p with asicBytes := v }]

/-- The identifier by which a policy is joined; a missing one counts as empty. -/
def key (p : PolicyTraffic) : String := p.uuid.getD ""

/-- The labels of the metrics of a policy. -/
def labelNames : List String := ["vdom", "protocol", "name", "policy_id", "uuid"]

def activeSessionsFamily : Family := .gauge "fortigate_policy_active_sessions"
  "Number of active sessions for a policy" labelNames

def bytesTotal : Family := .counter "fortigate_policy_bytes_total"
  "Number of bytes that have passed through a policy" labelNames

def packetsTotal : Family := .counter "fortigate_policy_packets_total"
  "Number of packets that have passed through a policy" labelNames

def hitsTotal : Family := .counter "fortigate_policy_hit_count_total"
  "Number of times a policy has been hit" labelNames

def softwareBytesTotal : Family := .counter "fortigate_policy_software_bytes_total"
  "Bytes of a policy handled by the CPU" labelNames

def asicBytesTotal : Family := .counter "fortigate_policy_asic_bytes_total"
  "Bytes of a policy offloaded to the network processor" labelNames

/-- What is reported about a policy. -/
def measurements : List (Measurement PolicyTraffic) := [
  activeSessionsFamily.of (·.activeSessions),
  bytesTotal.of (·.bytes),
  packetsTotal.of (·.packets),
  hitsTotal.of (·.hits),
  softwareBytesTotal.of (·.softwareBytes),
  asicBytesTotal.of (·.asicBytes)]

/-- An endpoint with statistics and the protocol that they belong to. -/
structure Source where
  protocol : String
  endpoint : Endpoint
  deriving DecidableEq, Repr

/-- The endpoints with statistics under `policy`. -/
def sources (policy : EndpointPolicy) : List Source :=
  if policy.combinedPolicies then [
    ⟨"ipv4", ⟨"monitor/firewall/policy/select", everyDomain ++ "&ip_version=ipv4"⟩⟩,
    ⟨"ipv6", ⟨"monitor/firewall/policy/select", everyDomain ++ "&ip_version=ipv6"⟩⟩]
  else [
    ⟨"ipv4", ⟨"monitor/firewall/policy/select", everyDomain⟩⟩,
    ⟨"ipv6", ⟨"monitor/firewall/policy6/select", everyDomain⟩⟩]

/-- The endpoints with configurations under `policy`. -/
def configEndpoints (policy : EndpointPolicy) : List Endpoint :=
  if policy.combinedPolicies then [⟨"cmdb/firewall/policy", everyDomain⟩]
  else [⟨"cmdb/firewall/policy", everyDomain⟩, ⟨"cmdb/firewall/policy6", everyDomain⟩]

/-- Asks for the configurations of all endpoints. -/
def fetchConfigs : List Endpoint → Collection (List PolicyConfig)
  | [] => return []
  | endpoint :: rest => do
    let envelopes ← Collection.fetch
      (Envelope.listDecoder (Decoder.list (Decoder.record PolicyConfig.record)))
      endpoint.path endpoint.query
    return envelopes.flatMap (·.results) ++ (← fetchConfigs rest)

/-- The samples of the policy `p` of `vdom`, with its `config` if that was found. -/
def samples (vdom protocol : String) (p : PolicyTraffic) (config : Option PolicyConfig) :
    List Sample :=
  let name := correlationLabel p.number (config.map (·.name))
  Measurement.samples measurements [vdom, protocol, name, toString p.number, p.key] p

/-- The samples of the answer of one endpoint, whose policies belong to `protocol` and whose names
stand in `index`. -/
def samplesOfSource (index : CorrelationIndex PolicyConfig) (protocol : String)
    (envelopes : List (Envelope (List PolicyTraffic))) : List Sample :=
  envelopes.flatMap fun e =>
    (correlate e.results index key).flatMap fun (p, config) => samples e.vdom protocol p config

/-- Asks for the statistics of all endpoints; the names of the policies stand in `index`. -/
def fetchSamples (index : CorrelationIndex PolicyConfig) :
    List Source → Collection (List Sample)
  | [] => return []
  | source :: rest => do
    let envelopes ← Collection.fetch
      (Envelope.listDecoder (Decoder.list (Decoder.record record)))
      source.endpoint.path source.endpoint.query
    return samplesOfSource index source.protocol envelopes ++ (← fetchSamples index rest)

/-- Reports the traffic of every policy under its configured name. -/
def routine : Routine where
  name := "firewall_policies"
  collect ctx := do
    let configs ← fetchConfigs (configEndpoints ctx.policy)
    let index ← Collection.ofLogged (CorrelationIndex.build (·.uuid) configs)
    fetchSamples index (sources ctx.policy)

end PolicyTraffic
end FirewallProbe
