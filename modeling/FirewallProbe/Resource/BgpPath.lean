import FirewallProbe.Grouping
import FirewallProbe.Routine

/-! # BGP paths

The paths of a virtual domain are listed in pages; one page is asked for, and the paths on it are
counted for each neighbour.  A page that is full is noted, since more paths may have followed. -/

namespace FirewallProbe

/-- A path. -/
structure BgpPath where
  learnedFrom : String := ""
  isBest : Bool := false

namespace BgpPath

/-- How a path is read. -/
def record : Record Json BgpPath where
  name := "Path"
  blank := {}
  fields := [
    .optional "learned_from" Decoder.text fun v p => { p with learnedFrom := v },
    .optional "is_best" Decoder.bool fun v p => { p with isBest := v }]

/-- The labels of the counts. -/
def labelNames : List String := ["vdom", "neighbor_ip"]

/-- The families that count paths of one protocol. -/
structure Families where
  paths : Family
  best : Family

/-- The families that count IPv4 paths. -/
def ipv4Families : Families where
  paths := .gauge "fortigate_bgp_neighbor_ipv4_paths"
    "Count of BGP paths received from an ipv4 neighbor" labelNames
  best := .gauge "fortigate_bgp_neighbor_ipv4_best_paths"
    "Count of best BGP paths received from an ipv4 neighbor" labelNames

/-- The families that count IPv6 paths. -/
def ipv6Families : Families where
  paths := .gauge "fortigate_bgp_neighbor_ipv6_paths"
    "Count of BGP paths received from an ipv6 neighbor" labelNames
  best := .gauge "fortigate_bgp_neighbor_ipv6_best_paths"
    "Count of best BGP paths received from an ipv6 neighbor" labelNames

/-- The event noted for a page of `vdom` that holds `limit` paths. -/
def truncatedEvent (vdom : String) (limit : Nat) : Event :=
  ⟨.warn, "BGP path listing truncated, counts are incomplete",
    [("vdom", vdom), ("max", toString limit)]⟩

/-- The events noted for the `envelopes` that hold a full page of `limit` paths. -/
def truncatedEvents (limit : Nat) (envelopes : List (Envelope (List BgpPath))) : List Event :=
  (envelopes.filter fun e => limit ≤ e.results.length).map fun e => truncatedEvent e.vdom limit

/-- The samples of a group of `paths` with the same `labels`, in the families `f`. -/
def groupSamples (f : Families) (labels : List String) (paths : List (String × BgpPath)) :
    List Sample := [
  f.paths.sample (Binary64.ofInt paths.length) labels,
  f.best.sample (Binary64.ofInt (paths.countP fun p => p.2.isBest)) labels]

/-- The samples of all paths in the families `f`, in the order of virtual domain and neighbour. -/
def samples (f : Families) (envelopes : List (Envelope (List BgpPath))) : List Sample :=
  (group (fun p : String × BgpPath => [p.1, p.2.learnedFrom])
    (Envelope.perResult envelopes)).flatMap fun (labels, paths) => groupSamples f labels paths

/-- The query for one page of `limit` paths. -/
def query (limit : Nat) : String := s!"{everyDomain}&start=0&count={limit}"

/-- The routine `name` that counts the paths of the endpoint `path` in the families `f`. -/
def countRoutine (name path : String) (f : Families) : Routine where
  name
  since := some ⟨6, 2⟩
  collect ctx := do
    let limit := ctx.options.maxBgpPaths
    let envelopes ← Collection.fetch
      (Envelope.listDecoder (Decoder.list (Decoder.record record))) path (query limit)
    Collection.ofLogged ⟨samples f envelopes, truncatedEvents limit envelopes⟩

/-- Counts IPv4 paths. -/
def ipv4Routine : Routine := countRoutine "bgp_paths_ipv4" "monitor/router/bgp/paths" ipv4Families

/-- Counts IPv6 paths. -/
def ipv6Routine : Routine := countRoutine "bgp_paths_ipv6" "monitor/router/bgp/paths6" ipv6Families

end BgpPath
end FirewallProbe
