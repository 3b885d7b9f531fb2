import Mathlib.Data.List.Forall2
import FirewallProbe.Proofs.Requests
import FirewallProbe.Proofs.Scrape.Locality

/-!
# The calls of a scrape

`requestTable` lists for every routine what it asks for, and the bodies of the routines keep to it:
a routine makes its requests in order and ends with the first that fails.  The calls of a scrape
are the status question and then, routine by routine, the requests that were made.

## Key results

- `follows_requestTable`: every routine of the table goes through its requests
- `turn_of_append`: a turn begins in the state in which the calls before it left the device
- `calls_scrape`: the calls of a scrape, one by one, and what becomes of a failed request
-/

namespace FirewallProbe

open Dialogue (Follows Succeeds)

/-! ## What routines ask for -/

namespace PolicyTraffic

/-- The request for the configurations of an endpoint. -/
def configRequest (path query : String) : Request :=
  .of (Envelope.listDecoder (Decoder.list (Decoder.record PolicyConfig.record))) path query

/-- The request for the statistics of an endpoint. -/
def statisticsRequest (path query : String) : Request :=
  .of (Envelope.listDecoder (Decoder.list (Decoder.record record))) path query

/-- Configurations come before statistics, and IPv4 before IPv6. -/
def requests (policy : EndpointPolicy) : List Request :=
  if policy.combinedPolicies then [
    configRequest "cmdb/firewall/policy" "vdom=*",
    statisticsRequest "monitor/firewall/policy/select" "vdom=*&ip_version=ipv4",
    statisticsRequest "monitor/firewall/policy/select" "vdom=*&ip_version=ipv6"]
  else [
    configRequest "cmdb/firewall/policy" "vdom=*",
    configRequest "cmdb/firewall/policy6" "vdom=*",
    statisticsRequest "monitor/firewall/policy/select" "vdom=*",
    statisticsRequest "monitor/firewall/policy6/select" "vdom=*"]

/-- The endpoints of firmware that has one for both protocols. -/
def combinedEndpoints : List Endpoint := [
  ⟨"cmdb/firewall/policy", "vdom=*"⟩,
  ⟨"monitor/firewall/policy/select", "vdom=*&ip_version=ipv4"⟩,
  ⟨"monitor/firewall/policy/select", "vdom=*&ip_version=ipv6"⟩]

/-- The endpoints of firmware that has one for each protocol. -/
def splitEndpoints : List Endpoint := [
  ⟨"cmdb/firewall/policy", "vdom=*"⟩,
  ⟨"cmdb/firewall/policy6", "vdom=*"⟩,
  ⟨"monitor/firewall/policy/select", "vdom=*"⟩,
  ⟨"monitor/firewall/policy6/select", "vdom=*"⟩]

/-- `requests` asks one endpoint for both protocols, or one for each of them. -/
theorem map_endpoint_requests (policy : EndpointPolicy) :
    (requests policy).map (·.endpoint) =
      if policy.combinedPolicies then combinedEndpoints else splitEndpoints := by
  unfold requests
  split <;> rfl

end PolicyTraffic

/-- A request for one envelope about the whole device. -/
def Request.device {α : Type} [Inhabited α] (results : Decoder α) (path query : String) : Request :=
  .of (Envelope.decoder results) path query

/-- A request for one envelope for each virtual domain. -/
def Request.domains {α : Type} [Inhabited α] (results : Decoder α) (path query : String) :
    Request :=
  .of (Envelope.listDecoder results) path query

/-- What each routine asks for, in the order of the table. -/
def requestTable (policy : EndpointPolicy) (maxBgpPaths : Nat) : List (String × List Request) :=
  let links := Decoder.dict (Decoder.dict (Decoder.record LinkHealth.record))
  let paths := Decoder.list (Decoder.record BgpPath.record)
  let page := s!"vdom=*&start=0&count={maxBgpPaths}"
  [("system_status", []),
    ("system_resources", [.device (Decoder.record Usage.record)
      "monitor/system/resource/usage" "interval=1-min&scope=global"]),
    ("system_vdom_resources", [.domains Decoder.any "monitor/system/vdom-resource" "vdom=*"]),
    ("system_ha_statistics", [.device (Decoder.list (Decoder.record ClusterMember.record))
      "monitor/system/ha-statistics" ""]),
    ("system_link_monitor", [.domains links "monitor/system/link-monitor" "vdom=*"]),
    ("system_fortiguard_servers", [.device (Decoder.list (Decoder.record UpdateServer.record))
      "monitor/system/fortiguard/server-info" ""]),
    ("system_sensor_info", [.device (Decoder.list (Decoder.record Sensor.record))
      "monitor/system/sensor-info" ""]),
    ("license_status", [.device (MixedRecord.decoder License.sectionNames
      (Decoder.record LicenseSections.record) (Decoder.record Entitlement.record))
      "monitor/license/status" ""]),
    ("interfaces", [.domains (Decoder.dict (Decoder.record Interface.record))
      "monitor/system/interface/select" "vdom=*&include_vlan=true&include_aggregate=true"]),
    ("firewall_policies", PolicyTraffic.requests policy),
    ("virtual_wan_health", [.domains links "monitor/virtual-wan/health-check" "vdom=*"]),
    ("ipsec_tunnels", [.domains (Decoder.list (Decoder.record IpsecTunnel.record))
      "monitor/vpn/ipsec" "vdom=*"]),
    ("ssl_vpn", [.domains (Decoder.record SslStats.record) "monitor/vpn/ssl/stats" "vdom=*",
      .domains (Decoder.list (Decoder.record SslSession.record)) "monitor/vpn/ssl" "vdom=*"]),
    ("bgp_neighbors_ipv4", [.of BgpNeighbor.decoder "monitor/router/bgp/neighbors" "vdom=*"]),
    ("bgp_neighbor_state_ipv4", [.of BgpNeighbor.decoder "monitor/router/bgp/neighbors" "vdom=*"]),
    ("bgp_neighbors_ipv6", [.of BgpNeighbor.decoder "monitor/router/bgp/neighbors6" "vdom=*"]),
    ("bgp_paths_ipv4", [.domains paths "monitor/router/bgp/paths" page]),
    ("bgp_paths_ipv6", [.domains paths "monitor/router/bgp/paths6" page]),
    ("ospf_neighbors", [.domains (Decoder.list (Decoder.record OspfNeighbor.record))
      "monitor/router/ospf/neighbors" "vdom=*"]),
    ("wifi_managed_aps", [.domains (Decoder.list (Decoder.record AccessPoint.record))
      "monitor/wifi/managed_ap" "vdom=*"]),
    ("switch_ports", [.domains (Decoder.list (Decoder.record ManagedSwitch.record))
      "monitor/switch-controller/managed-switch" "vdom=*"]),
    ("certificates", [.device (Decoder.list (Decoder.record Certificate.record))
      "monitor/system/available-certificates" "scope=global"])]

/-- A routine that may fail although each of its requests was answered: it has no status to report,
or cannot split what it was given. -/
def MayFailAlone (name : String) : Prop :=
  name = "system_status" ∨ name = "system_vdom_resources"

/-- The body of `r` follows the requests that a `line` of the table gives it. -/
def Routine.GoesThrough (ctx : ScrapeContext) (r : Routine) (line : String × List Request) : Prop :=
  line.1 = r.name ∧
    Follows (fun x => Succeeds x ∨ MayFailAlone r.name) line.2 (r.collect ctx).run

namespace Routine

variable {α : Type} (ctx : ScrapeContext)

/-- A routine whose body succeeds once its requests did goes through them. -/
private theorem goesThrough_of_succeeds {r : Routine} {requests : List Request}
    (h : Follows Succeeds requests (r.collect ctx).run) :
    r.GoesThrough ctx (r.name, requests) :=
  ⟨rfl, h.mono fun _ hx => .inl hx⟩

/-- A routine with one endpoint makes one request. -/
theorem goesThrough_ofEndpoint (name : String) (since : Option Firmware) (decoder : Decoder α)
    (path query : String) (samples : α → List Sample) :
    (ofEndpoint name since decoder path query samples).GoesThrough ctx
      (name, [.of decoder path query]) :=
  goesThrough_of_succeeds ctx (Collection.follows_fetch_bind fun _ => Collection.follows_pure _)

/-- Noting events makes no further request. -/
theorem goesThrough_ofEndpointLogged (name : String) (since : Option Firmware)
    (decoder : Decoder α) (path query : String) (samples : α → Logged (List Sample)) :
    (ofEndpointLogged name since decoder path query samples).GoesThrough ctx
      (name, [.of decoder path query]) :=
  goesThrough_of_succeeds ctx
    (Collection.follows_fetch_bind fun _ => Collection.follows_ofLogged _)

end Routine

/-- The identity of the device was asked for by `resolve`, so its routine makes no request, and may
fail alone. -/
theorem DeviceInfo.goesThrough_routine (ctx : ScrapeContext) :
    routine.GoesThrough ctx ("system_status", []) := by
  refine ⟨rfl, ?_⟩
  cases hstatus : ctx.status with
  | none =>
    simp only [routine, hstatus]
    exact .done (.inr (.inl rfl))
  | some status =>
    simp only [routine, hstatus]
    exact .done (.inr (.inl rfl))

/-- The results are split after the one request, so the routine may fail alone. -/
theorem VirtualDomain.goesThrough_routine (ctx : ScrapeContext) :
    routine.GoesThrough ctx ("system_vdom_resources",
      [.domains Decoder.any "monitor/system/vdom-resource" "vdom=*"]) :=
  ⟨rfl, Collection.follows_fetch_bind fun _ => .done (.inr (.inr rfl))⟩

/-- The totals are asked for before the sessions. -/
theorem SslVpn.goesThrough_routine (ctx : ScrapeContext) :
    routine.GoesThrough ctx ("ssl_vpn",
      [.domains (Decoder.record SslStats.record) "monitor/vpn/ssl/stats" "vdom=*",
        .domains (Decoder.list (Decoder.record SslSession.record)) "monitor/vpn/ssl" "vdom=*"]) :=
  Routine.goesThrough_of_succeeds ctx (Collection.follows_fetch_bind fun _ =>
    Collection.follows_fetch_bind fun _ => Collection.follows_pure _)

/-- The page size of the options is part of the one request. -/
theorem BgpPath.goesThrough_countRoutine (ctx : ScrapeContext) (name path : String)
    (f : Families) :
    (countRoutine name path f).GoesThrough ctx
      (name, [.domains (Decoder.list (Decoder.record record)) path
        s!"vdom=*&start=0&count={ctx.options.maxBgpPaths}"]) :=
  Routine.goesThrough_of_succeeds ctx
    (Collection.follows_fetch_bind fun _ => Collection.follows_ofLogged _)

namespace PolicyTraffic

/-- `fetchConfigs` makes one request for each of the `endpoints`. -/
theorem follows_fetchConfigs (endpoints : List Endpoint) :
    Follows Succeeds (endpoints.map fun e => configRequest e.path e.query)
      (fetchConfigs endpoints).run := by
  induction endpoints with
  | nil => exact Collection.follows_pure _
  | cons e rest ih =>
    refine Collection.follows_fetch_bind fun _ => ?_
    simpa using Collection.follows_bind ih fun _ => Collection.follows_pure _

/-- `fetchSamples` makes one request for each of the `sources`. -/
theorem follows_fetchSamples (index : CorrelationIndex PolicyConfig) (sources : List Source) :
    Follows Succeeds (sources.map fun s => statisticsRequest s.endpoint.path s.endpoint.query)
      (fetchSamples index sources).run := by
  induction sources with
  | nil => exact Collection.follows_pure _
  | cons source rest ih =>
    refine Collection.follows_fetch_bind fun _ => ?_
    simpa using Collection.follows_bind ih fun _ => Collection.follows_pure _

/-- `requests` are those of the endpoints that the firmware has, configurations before
statistics. -/
theorem requests_eq (policy : EndpointPolicy) :
    requests policy =
      (configEndpoints policy).map (fun e => configRequest e.path e.query) ++
        (sources policy).map fun s => statisticsRequest s.endpoint.path s.endpoint.query := by
  cases hcombined : policy.combinedPolicies with
  | true =>
    simp only [requests, configEndpoints, sources, hcombined, if_true]
    rfl
  | false =>
    simp only [requests, configEndpoints, sources, hcombined]
    rfl

/-- The routine of policies makes the `requests` of its firmware. -/
theorem goesThrough_routine (ctx : ScrapeContext) :
    routine.GoesThrough ctx ("firewall_policies", requests ctx.policy) := by
  refine Routine.goesThrough_of_succeeds ctx ?_
  rw [requests_eq]
  refine Collection.follows_bind (follows_fetchConfigs _) fun configs => ?_
  exact Collection.follows_bind (Collection.follows_ofLogged _) fun index =>
    follows_fetchSamples index _

end PolicyTraffic

/-- Every routine of `routineTable` goes through the requests of its line. -/
theorem follows_requestTable (ctx : ScrapeContext) :
    List.Forall₂ (Routine.GoesThrough ctx) routineTable
      (requestTable ctx.policy ctx.options.maxBgpPaths) := by
  have plain := @Routine.goesThrough_ofEndpoint
  have logged := @Routine.goesThrough_ofEndpointLogged
  exact .cons (DeviceInfo.goesThrough_routine ctx) <| .cons (plain ..) <|
    .cons (VirtualDomain.goesThrough_routine ctx) <| .cons (plain ..) <| .cons (plain ..) <|
    .cons (logged ..) <| .cons (plain ..) <| .cons (plain ..) <| .cons (plain ..) <|
    .cons (PolicyTraffic.goesThrough_routine ctx) <| .cons (plain ..) <| .cons (plain ..) <|
    .cons (SslVpn.goesThrough_routine ctx) <| .cons (plain ..) <| .cons (plain ..) <|
    .cons (plain ..) <| .cons (BgpPath.goesThrough_countRoutine ..) <|
    .cons (BgpPath.goesThrough_countRoutine ..) <| .cons (plain ..) <| .cons (plain ..) <|
    .cons (logged ..) <| .cons (plain ..) .nil

/-- `List.lookup` finds a routine's own line by its name. -/
private theorem exists_lookup {ctx : ScrapeContext} {table : List Routine}
    {lines : List (String × List Request)} (h : List.Forall₂ (Routine.GoesThrough ctx) table lines)
    (hnodup : (table.map (·.name)).Nodup) {r : Routine} (hr : r ∈ table) :
    ∃ requests, lines.lookup r.name = some requests ∧ r.GoesThrough ctx (r.name, requests) := by
  induction h with
  | nil => simp at hr
  | @cons own line rest lines hown _ ih =>
    obtain ⟨name, requests⟩ := line
    obtain ⟨rfl, hfollows⟩ := hown
    rw [List.map_cons, List.nodup_cons] at hnodup
    rcases List.mem_cons.1 hr with rfl | hr
    · exact ⟨requests, List.lookup_cons_self, rfl, hfollows⟩
    · have hne : r.name ≠ own.name := fun heq => hnodup.1 (heq ▸ List.mem_map_of_mem hr)
      obtain ⟨others, hlookup, hothers⟩ := ih hnodup.2 hr
      refine ⟨others, ?_, hothers⟩
      rw [List.lookup_cons, beq_eq_false_iff_ne.2 hne]
      exact hlookup

/-- `requestTable` has a line for every routine of the table. -/
theorem lookup_requestTable (ctx : ScrapeContext) {r : Routine} (hr : r ∈ routineTable) :
    ∃ requests, (requestTable ctx.policy ctx.options.maxBgpPaths).lookup r.name = some requests ∧
      r.GoesThrough ctx (r.name, requests) :=
  exists_lookup (follows_requestTable ctx) Scrape.nodup_names_routineTable hr

/-- No line of `requestTable` asks for one thing twice. -/
theorem nodup_endpoints_requestTable (policy : EndpointPolicy) (maxBgpPaths : Nat) :
    ∀ line ∈ requestTable policy maxBgpPaths, (line.2.map (·.endpoint)).Nodup := by
  rcases policy with ⟨_ | _⟩ <;>
    simp [requestTable, PolicyTraffic.requests, PolicyTraffic.configRequest,
      PolicyTraffic.statisticsRequest, Request.device, Request.domains, Request.of]

/-! ## Turns -/

variable {σ : Type}

namespace Turn

/-- A turn fails with the error that its body ended with. -/
theorem outcome_eq_failed_iff (t : Turn σ) (cause : ProbeError) :
    t.outcome = .failed cause ↔ ∃ body, t.body? = some body ∧ body.value = .error cause := by
  cases hbody : t.body? with
  | none => simp [outcome, hbody]
  | some body => cases hvalue : body.value <;> simp [outcome, hbody, hvalue]

/-- A turn is skipped if it has no body. -/
theorem label_eq_skipped_iff (t : Turn σ) : t.label = "skipped" ↔ t.body? = none := by
  cases hbody : t.body? with
  | none => simp [label, outcome, hbody, RoutineOutcome.name]
  | some body => cases hvalue : body.value <;> simp [label, outcome, hbody, hvalue,
      RoutineOutcome.name]

/-- A skipped turn asks nothing. -/
theorem calls_eq_nil_of_skipped {t : Turn σ} (h : t.label = "skipped") : t.calls = [] := by
  simp [calls, t.label_eq_skipped_iff.1 h]

end Turn

namespace Scrape

variable (device : Device σ)

/-- A turn leaves the device in the state after its `calls`. -/
theorem stateAfter_turn (ctx : ScrapeContext) (r : Routine) (s : σ) :
    (turn device ctx r s).stateAfter s = device.after s (turn device ctx r s).calls := by
  unfold turn Turn.stateAfter Turn.calls
  split
  · exact Dialogue.state_run _ device s
  · rfl

section report

variable (options : ProbeOptions) (s : σ)

/-- `resolve` settles the context by one answer. -/
theorem value_resolve :
    ((resolve options).run device s).value =
      let answer := (device.answer s ⟨SystemStatus.path, ""⟩).1
      let status := (Collection.readAnswer SystemStatus.decoder SystemStatus.path answer).toOption
      ⟨firmwareOf (status.bind (·.version)), status, options⟩ := by
  simp only [resolve, askStatus, Dialogue.run_bind, Collection.run_fetch, Dialogue.run_noteAll]
  cases Collection.readAnswer SystemStatus.decoder SystemStatus.path
    (device.answer s ⟨SystemStatus.path, ""⟩).1 <;> rfl

/-- The report of a scrape takes in the turns of the routines, in order. -/
theorem value_scrape :
    ((scrape options).run device s).value =
      .addTurns { firmware := ((resolve options).run device s).value.firmware }
        (turnsOf device routineTable options s) := by
  simp only [scrape, run_scrapeWith]

/-- The report has the firmware of the context. -/
theorem firmware_scrape :
    ((scrape options).run device s).value.firmware =
      ((resolve options).run device s).value.firmware := by
  rw [value_scrape, ScrapeReport.addTurns_eq]

/-- The report has the `entry` of every turn. -/
theorem routines_scrape :
    ((scrape options).run device s).value.routines =
      (turnsOf device routineTable options s).map (·.entry) := by
  simp [value_scrape, ScrapeReport.addTurns_eq]

/-- The report has the `block` of every turn. -/
theorem samples_scrape :
    ((scrape options).run device s).value.samples =
      (turnsOf device routineTable options s).flatMap (·.block) := by
  simp [value_scrape, ScrapeReport.addTurns_eq]

/-- The status is asked for first, and then what each turn asks. -/
theorem calls_scrape_eq :
    ((scrape options).run device s).calls =
      ⟨SystemStatus.path, ""⟩ :: (turnsOf device routineTable options s).flatMap (·.calls) := by
  simp [scrape, run_scrapeWith, calls_resolve]

theorem map_routine_turnsOf :
    (turnsOf device routineTable options s).map (·.routine) = chosen options routineTable :=
  map_routine_turns _ _ _ _

/-- The report has one entry for each routine that the filter allows. -/
theorem map_name_routines_scrape :
    ((scrape options).run device s).value.routines.map (·.name) =
      (routineTable.filter fun r => options.routines.allows r.name).map (·.name) := by
  have hrun := congrArg (List.map Routine.name) (map_routine_turnsOf device options s)
  rw [List.map_map] at hrun
  rw [routines_scrape, List.map_map]
  exact hrun

end report

/-- A turn begins in the state in which the calls of those `before` it left the device. -/
theorem turn_of_append {ctx : ScrapeContext} {table : List Routine} {s : σ}
    {before after : List (Turn σ)} {t : Turn σ}
    (h : turns device ctx table s = before ++ t :: after) :
    t = turn device ctx t.routine (device.after s (before.flatMap (·.calls))) := by
  induction before generalizing table s with
  | nil =>
    cases table with
    | nil => simp [turns] at h
    | cons r rest =>
      obtain ⟨rfl, -⟩ := List.cons_eq_cons.1 h
      rfl
  | cons first before ih =>
    cases table with
    | nil => simp [turns] at h
    | cons r rest =>
      obtain ⟨rfl, hrest⟩ := List.cons_eq_cons.1 h
      -- The calls of the first turn go before those of the others.
      rw [stateAfter_turn] at hrest
      rw [List.flatMap_cons, Device.after_append]
      exact ih hrest

/-- The body of a turn, if there is one, is a run of the routine. -/
theorem body?_eq_of_ne_none {ctx : ScrapeContext} {s : σ} {t : Turn σ}
    (ht : t = turn device ctx t.routine s) (h : t.body? ≠ none) :
    t.body? = some ((t.routine.collect ctx).run.run device s) := by
  rw [ht] at h ⊢
  simpa [turn] using h

/-- The turn of a routine that goes through `requests` makes them up to the first that fails, and
fails with its error. -/
theorem calls_of_goesThrough {ctx : ScrapeContext} {s : σ} {t : Turn σ} {requests : List Request}
    (ht : t = turn device ctx t.routine s)
    (hr : t.routine.GoesThrough ctx (t.routine.name, requests)) (h : t.label ≠ "skipped") :
    let made := device.exchangesUntilFailure requests s
    t.calls = made.map Exchange.endpoint ∧
      (∀ x ∈ made, ∀ cause, x.failure? = some cause → t.outcome = .failed cause) ∧
      (¬MayFailAlone t.routine.name →
        ∀ cause, t.outcome = .failed cause → ∃ x ∈ made, x.failure? = some cause) := by
  intro made
  have hbody := body?_eq_of_ne_none device ht fun hnone => h (t.label_eq_skipped_iff.2 hnone)
  obtain ⟨herror, hend⟩ := hr.2.value_run device s
  refine ⟨?_, fun x hx cause hcause => ?_, fun halone cause hcause => ?_⟩
  · simp only [Turn.calls, hbody, Option.map_some, Option.getD_some]
    exact hr.2.calls_run device s
  · exact (t.outcome_eq_failed_iff cause).2 ⟨_, hbody, herror x hx cause hcause⟩
  · obtain ⟨body, hsome, hvalue⟩ := (t.outcome_eq_failed_iff cause).1 hcause
    obtain rfl : (t.routine.collect ctx).run.run device s = body :=
      Option.some.inj (hbody.symm.trans hsome)
    -- Had no request failed, the body would have ended with samples.
    by_contra hnone
    have hfine : ∀ x ∈ made, x.failure? = none := by
      intro x hx
      cases hfailure : x.failure? with
      | none => rfl
      | some other =>
        have hother := (herror x hx other hfailure).symm.trans hvalue
        exact absurd ⟨x, hx, Except.error.inj hother ▸ hfailure⟩ hnone
    rcases hend hfine with ⟨samples, hsamples⟩ | hmay
    · rw [hvalue] at hsamples
      cases hsamples
    · exact halone hmay

/-- Every turn of a scrape is that of a routine of the table, in the context that `resolve` settled
and in the state in which all calls before it left the device. -/
theorem turn_of_turnsOf_append {options : ProbeOptions} {s : σ} {before after : List (Turn σ)}
    {t : Turn σ} (h : turnsOf device routineTable options s = before ++ t :: after) :
    t.routine ∈ routineTable ∧
      t = turn device ((resolve options).run device s).value t.routine
        (device.after s (⟨SystemStatus.path, ""⟩ :: before.flatMap (·.calls))) := by
  have hmem : t ∈ turnsOf device routineTable options s :=
    h ▸ List.mem_append_right _ List.mem_cons_self
  have hchosen : t.routine ∈ chosen options routineTable := by
    rw [← map_routine_turnsOf device options s]
    exact List.mem_map_of_mem hmem
  have hstate : ((resolve options).run device s).state =
      device.after s [⟨SystemStatus.path, ""⟩] := by
    rw [← calls_resolve device options s]
    exact Dialogue.state_run _ device s
  refine ⟨List.mem_of_mem_filter hchosen, ?_⟩
  rw [← List.singleton_append, Device.after_append, ← hstate]
  exact turn_of_append device h

/-- What a routine asks for in a scrape, in the state in which its turn begins. -/
theorem exists_requests_of_append {options : ProbeOptions} {s : σ} {before after : List (Turn σ)}
    {t : Turn σ} (h : turnsOf device routineTable options s = before ++ t :: after) :
    ∃ requests, (requestTable (.of ((scrape options).run device s).value.firmware)
        options.maxBgpPaths).lookup t.routine.name = some requests ∧
      let made := device.exchangesUntilFailure requests
        (device.after s (⟨SystemStatus.path, ""⟩ :: before.flatMap (·.calls)))
      t.label ≠ "skipped" →
        t.calls = made.map Exchange.endpoint ∧
        (∀ x ∈ made, ∀ cause, x.failure? = some cause → t.outcome = .failed cause) ∧
        (¬MayFailAlone t.routine.name →
          ∀ cause, t.outcome = .failed cause → ∃ x ∈ made, x.failure? = some cause) := by
  let start := (resolve options).run device s
  obtain ⟨hmem, hturn⟩ := turn_of_turnsOf_append device h
  have htable : requestTable (.of ((scrape options).run device s).value.firmware)
      options.maxBgpPaths = requestTable start.value.policy start.value.options.maxBgpPaths := by
    have hoptions : start.value.options = options := by simp only [start, value_resolve]
    rw [firmware_scrape, hoptions]
    rfl
  obtain ⟨requests, hlookup, hthrough⟩ := lookup_requestTable start.value hmem
  exact ⟨requests, htable ▸ hlookup, calls_of_goesThrough device hturn hthrough⟩

/-- A turn asks for the first of the requests of its routine. -/
theorem exists_calls_prefix {options : ProbeOptions} {s : σ} {t : Turn σ}
    (ht : t ∈ turnsOf device routineTable options s) :
    let table := requestTable (.of ((scrape options).run device s).value.firmware)
      options.maxBgpPaths
    ∃ requests, table.lookup t.routine.name = some requests ∧
      (t.routine.name, requests) ∈ table ∧ t.calls <+: requests.map (·.endpoint) := by
  obtain ⟨before, after, hsplit⟩ := List.append_of_mem ht
  obtain ⟨requests, hlookup, hmade⟩ := exists_requests_of_append device hsplit
  obtain ⟨_, _, hlines, _⟩ := List.lookup_eq_some_iff.1 hlookup
  refine ⟨requests, hlookup, hlines ▸ List.mem_append_right _ List.mem_cons_self, ?_⟩
  by_cases hskipped : t.label = "skipped"
  · rw [Turn.calls_eq_nil_of_skipped hskipped]
    exact List.nil_prefix
  · rw [(hmade hskipped).1]
    exact device.map_endpoint_exchangesUntilFailure_prefix _ _

/-- The calls of a scrape are the status question and then, for every routine that the filter allows
and in the order of the table, what the routine asks: nothing if it is skipped, otherwise the
requests of its line in `requestTable` up to the first that fails, each once.  A request that failed
is the error of its routine, and a routine fails for no other reason unless it `MayFailAlone`. -/
theorem calls_scrape (options : ProbeOptions) (s : σ) :
    let run := (scrape options).run device s
    let ts := turnsOf device routineTable options s
    let status : Endpoint := ⟨"monitor/system/status", ""⟩
    ts.map (·.routine) = routineTable.filter (fun r => options.routines.allows r.name) ∧
    run.value.routines = ts.map (·.entry) ∧
    run.calls = status :: ts.flatMap (·.calls) ∧
    ∀ before t after, ts = before ++ t :: after →
      ∃ requests, (requestTable (.of run.value.firmware) options.maxBgpPaths).lookup
          t.routine.name = some requests ∧
        let made := device.exchangesUntilFailure requests
          (device.after s (status :: before.flatMap (·.calls)))
        t.calls.Nodup ∧
        (t.label = "skipped" → t.calls = []) ∧
        (t.label ≠ "skipped" →
          t.calls = made.map Exchange.endpoint ∧
          (∀ x ∈ made, ∀ cause, x.failure? = some cause → t.outcome = .failed cause) ∧
          (t.routine.name ≠ "system_status" → t.routine.name ≠ "system_vdom_resources" →
            ∀ cause, t.outcome = .failed cause → ∃ x ∈ made, x.failure? = some cause)) := by
  intro run ts status
  refine ⟨map_routine_turnsOf device options s, routines_scrape device options s,
    calls_scrape_eq device options s, ?_⟩
  intro before t after hsplit
  have ht : t ∈ ts := hsplit ▸ List.mem_append_right _ List.mem_cons_self
  obtain ⟨requests, hlookup, hmade⟩ := exists_requests_of_append device hsplit
  obtain ⟨_, -, hline, hstart⟩ := exists_calls_prefix device ht
  refine ⟨requests, hlookup, ?_, Turn.calls_eq_nil_of_skipped, fun hran => ?_⟩
  · exact (nodup_endpoints_requestTable _ _ _ hline).sublist hstart.sublist
  · obtain ⟨hcalls, hfail, honly⟩ := hmade hran
    exact ⟨hcalls, hfail, fun hstatus hdomains => honly fun halone =>
      halone.elim hstatus hdomains⟩

end Scrape
end FirewallProbe
