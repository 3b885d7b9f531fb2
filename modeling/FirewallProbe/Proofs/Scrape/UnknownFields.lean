import FirewallProbe.Proofs.Indifferent
import FirewallProbe.Proofs.Schema.Extension
import FirewallProbe.Proofs.Scrape.Locality

/-!
# Fields that the scrape does not know

A device may tell more than a routine asks for, and later firmware tells more than earlier.  Members
that are no fields make no difference, wherever they stand in an answer: in an envelope, or in an
object that is read as a record.  The objects whose other members are data, because their keys are
names, are no such records, and nothing is said about new members there.

## Key results

- `Scrape.bodies`: what the answers of all endpoints may grow into
- `Scrape.indifferent_routineTable`: every routine goes on in one way
- `Scrape.unknown_fields_ignored`: routines and scrapes run alike
-/

namespace FirewallProbe

variable {σ α : Type}

open Extension

/-! ## Resources -/

namespace Usage

/-- What a usage may grow into, with its readings. -/
def extension : Extension :=
  let readings := Items (UsageSample.record.extension [])
  record.extension [("cpu", readings), ("mem", readings), ("disk", readings),
    ("session", readings), ("session6", readings)]

theorem respects : (Decoder.record record).Respects extension Eq := by
  have hreadings := (Record.respects_nil UsageSample.record).decoder.list
  have hnames : record.names.Nodup := by decide
  exact ((((((Record.respects_nil record).cons hnames rfl hreadings).cons hnames rfl hreadings).cons
    hnames rfl hreadings).cons hnames rfl hreadings).cons hnames rfl hreadings).decoder

end Usage

namespace Sensor

/-- What a sensor may grow into, with its limits. -/
def extension : Extension := record.extension [("thresholds", Thresholds.record.extension [])]

theorem respects : (Decoder.record record).Respects extension Eq :=
  ((Record.respects_nil record).cons (by decide) rfl
    (Record.respects_nil Thresholds.record).decoder.nullable).decoder

end Sensor

namespace IpsecTunnel

/-- What a tunnel may grow into, with its selectors. -/
def extension : Extension :=
  record.extension [("proxyid", Items (TunnelSelector.record.extension []))]

theorem respects : (Decoder.record record).Respects extension Eq :=
  ((Record.respects_nil record).cons (by decide) rfl
    (Record.respects_nil TunnelSelector.record).decoder.list).decoder

end IpsecTunnel

namespace SslStats

/-- What totals may grow into, at both times. -/
def extension : Extension :=
  record.extension [("current", SslCounts.record.extension []),
    ("max", SslCounts.record.extension [])]

theorem respects : (Decoder.record record).Respects extension Eq := by
  have hcounts := (Record.respects_nil SslCounts.record).decoder
  exact (((Record.respects_nil record).cons (by decide) rfl hcounts).cons
    (by decide) rfl hcounts).decoder

end SslStats

namespace AccessPoint

/-- What an access point may grow into, with its radios. -/
def extension : Extension := record.extension [("radio", Items (Radio.record.extension []))]

theorem respects : (Decoder.record record).Respects extension Eq :=
  ((Record.respects_nil record).cons (by decide) rfl
    (Record.respects_nil Radio.record).decoder.list).decoder

end AccessPoint

namespace ManagedSwitch

/-- What a switch may grow into, with its ports and their counters. -/
def extension : Extension :=
  record.extension [("ports", Items (PortConfig.record.extension [])),
    ("port_stats", Values (PortCounters.record.extension []))]

theorem respects : (Decoder.record record).Respects extension Eq :=
  (((Record.respects_nil record).cons (by decide) rfl
    (Record.respects_nil PortCounters.record).decoder.dict).cons (by decide) rfl
    (Record.respects_nil PortConfig.record).decoder.list).decoder

end ManagedSwitch

namespace License

/-- What licenses may grow into: new members come into the known sections and the entitlements. -/
def extension : Extension :=
  Mixed sectionNames [("vdom", DomainLicense.record.extension []),
    ("forticare", Registration.record.extension [])] (Entitlement.record.extension [])

theorem respects :
    (MixedRecord.decoder sectionNames (Decoder.record LicenseSections.record)
      (Decoder.record Entitlement.record)).Respects extension Eq :=
  MixedRecord.respects_decoder
    (((Record.respects_nil LicenseSections.record).cons (by decide) rfl
      (Record.respects_nil Registration.record).decoder).cons (by decide) rfl
      (Record.respects_nil DomainLicense.record).decoder)
    (Record.respects_nil Entitlement.record).decoder

end License

namespace VirtualDomain

/-- What the usage of a virtual domain may grow into: new members come into its entries. -/
def extension : Extension :=
  Mixed DomainUsage.fieldNames [] (ObjectUsage.record.extension [])

/-- `readResources` reads the same before and after the usage grew. -/
theorem readResources_congr {v v' : Json} (h : extension v v') :
    readResources v = readResources v' :=
  MixedRecord.decode_congr (Record.respects_nil DomainUsage.record)
    (Record.respects_nil ObjectUsage.record).decoder h

/-- `samplesOfAll`, and its errors, depend on what `readResources` reads. -/
theorem samplesOfAll_congr {envelopes envelopes' : List (Envelope Json)}
    (h : List.Forall₂ (Envelope.Agree extension) envelopes envelopes') :
    samplesOfAll envelopes = samplesOfAll envelopes' := by
  induction h with
  | nil => rfl
  | cons he _ ih =>
    obtain ⟨results, hresults, rfl⟩ := he
    rw [samplesOfAll, samplesOfAll, readResources_congr hresults, ih]

end VirtualDomain

/-! ## Answers -/

namespace Scrape

/-- What the answer of each endpoint may grow into. -/
def bodies : List (String × Extension) := [
  (SystemStatus.path, Envelope.extension (SystemStatus.record.extension [])),
  ("monitor/system/resource/usage", Envelope.extension Usage.extension),
  (VirtualDomain.path, Envelope.listExtension VirtualDomain.extension),
  ("monitor/system/ha-statistics", Envelope.extension (Items (ClusterMember.record.extension []))),
  ("monitor/system/link-monitor",
    Envelope.listExtension (Values (Values (LinkHealth.record.extension [])))),
  ("monitor/system/fortiguard/server-info",
    Envelope.extension (Items (UpdateServer.record.extension []))),
  ("monitor/system/sensor-info", Envelope.extension (Items Sensor.extension)),
  ("monitor/license/status", Envelope.extension License.extension),
  ("monitor/system/interface/select",
    Envelope.listExtension (Values (Interface.record.extension []))),
  ("cmdb/firewall/policy", Envelope.listExtension (Items (PolicyConfig.record.extension []))),
  ("cmdb/firewall/policy6", Envelope.listExtension (Items (PolicyConfig.record.extension []))),
  ("monitor/firewall/policy/select",
    Envelope.listExtension (Items (PolicyTraffic.record.extension []))),
  ("monitor/firewall/policy6/select",
    Envelope.listExtension (Items (PolicyTraffic.record.extension []))),
  ("monitor/virtual-wan/health-check",
    Envelope.listExtension (Values (Values (LinkHealth.record.extension [])))),
  ("monitor/vpn/ipsec", Envelope.listExtension (Items IpsecTunnel.extension)),
  ("monitor/vpn/ssl/stats", Envelope.listExtension SslStats.extension),
  ("monitor/vpn/ssl", Envelope.listExtension (Items (SslSession.record.extension []))),
  (BgpNeighbor.ipv4Path, Envelope.listExtension (Items (BgpNeighbor.record.extension []))),
  (BgpNeighbor.ipv6Path, Envelope.listExtension (Items (BgpNeighbor.record.extension []))),
  ("monitor/router/bgp/paths", Envelope.listExtension (Items (BgpPath.record.extension []))),
  ("monitor/router/bgp/paths6", Envelope.listExtension (Items (BgpPath.record.extension []))),
  ("monitor/router/ospf/neighbors",
    Envelope.listExtension (Items (OspfNeighbor.record.extension []))),
  ("monitor/wifi/managed_ap", Envelope.listExtension (Items AccessPoint.extension)),
  ("monitor/switch-controller/managed-switch",
    Envelope.listExtension (Items ManagedSwitch.extension)),
  ("monitor/system/available-certificates",
    Envelope.extension (Items (Certificate.record.extension [])))]

/-- The second answer is what the first may grow into, or both are one error. -/
def Grown : Difference := fun e =>
  Except.Rel fun v v' => ∀ R, (e.path, R) ∈ bodies → R v v'

section

variable {d : Decoder α} {R : Extension} {path : String}

/-- `readAnswer` reads answers alike that differ by what they grew. -/
theorem rel_readAnswer {T : α → α → Prop} (hbody : (path, R) ∈ bodies) (hd : d.Respects R T)
    {query : String} {answer answer' : Answer} (h : Grown ⟨path, query⟩ answer answer') :
    Except.Rel T (Collection.readAnswer d path answer) (Collection.readAnswer d path answer') := by
  cases h with
  | ok h => exact (hd _ _ (h R hbody)).mapError _
  | error e => exact .error _

/-- `fetch` goes on in one way if `d` reads the same of what grew. -/
theorem indifferent_fetch (hbody : (path, R) ∈ bodies) (hd : d.Respects R Eq) (query : String) :
    Collection.Indifferent Grown (Collection.fetch d path query) := by
  rw [← bind_pure (Collection.fetch d path query)]
  exact Collection.indifferent_fetch_bind (fun _ _ h => rel_readAnswer hbody hd h)
    (fun _ _ h => congrArg _ h) Collection.indifferent_pure

end

end Scrape

/-! ## Routines -/

/-- The routine goes on in one way, whatever its answers grow into. -/
def Routine.Indifferent (r : Routine) : Prop :=
  ∀ ctx, Collection.Indifferent Scrape.Grown (r.collect ctx)

namespace Routine

/-- A routine with one endpoint is indifferent if `d` reads the same of what grew. -/
theorem indifferent_ofEndpoint {name : String} {since : Option Firmware} {d : Decoder α}
    {path query : String} {samples : α → List Sample} {R : Extension}
    (hbody : (path, R) ∈ Scrape.bodies) (hd : d.Respects R Eq) :
    (Routine.ofEndpoint name since d path query samples).Indifferent := fun _ =>
  (Scrape.indifferent_fetch hbody hd query).bind fun _ => Collection.indifferent_pure _

/-- So is one that notes events. -/
theorem indifferent_ofEndpointLogged {name : String} {since : Option Firmware} {d : Decoder α}
    {path query : String} {samples : α → Logged (List Sample)} {R : Extension}
    (hbody : (path, R) ∈ Scrape.bodies) (hd : d.Respects R Eq) :
    (Routine.ofEndpointLogged name since d path query samples).Indifferent := fun _ =>
  (Scrape.indifferent_fetch hbody hd query).bind fun _ => Collection.indifferent_ofLogged _

end Routine

/-- The identity of the device was read before its routine runs. -/
theorem DeviceInfo.indifferent_routine : DeviceInfo.routine.Indifferent := by
  intro ctx
  simp only [DeviceInfo.routine]
  cases ctx.status <;> trivial

theorem VirtualDomain.indifferent_routine : VirtualDomain.routine.Indifferent := fun _ =>
  -- The results are split after they were fetched, so what is fetched is not the same.
  Collection.indifferent_fetch_bind
    (fun _ _ h => Scrape.rel_readAnswer (by simp [Scrape.bodies])
      (Envelope.respects_listDecoder_of (fun _ _ h => .ok h) fun v => .same v) h)
    (fun _ _ h => congrArg _ (samplesOfAll_congr h)) fun _ => trivial

theorem SslVpn.indifferent_routine : SslVpn.routine.Indifferent := fun _ =>
  (Scrape.indifferent_fetch (by simp [Scrape.bodies])
    (Envelope.respects_listDecoder SslStats.respects) _).bind fun _ =>
      (Scrape.indifferent_fetch (by simp [Scrape.bodies]) (Envelope.respects_listDecoder
        (Record.respects_nil SslSession.record).decoder.list) _).bind fun _ =>
          Collection.indifferent_pure _

/-- The counts of paths are indifferent to new members of the paths. -/
theorem BgpPath.indifferent_countRoutine {path : String}
    (hbody : (path, Envelope.listExtension (Items (record.extension []))) ∈ Scrape.bodies)
    (name : String) (f : Families) : (countRoutine name path f).Indifferent := fun _ =>
  (Scrape.indifferent_fetch hbody (Envelope.respects_listDecoder
    (Record.respects_nil record).decoder.list) _).bind fun _ => Collection.indifferent_ofLogged _

namespace PolicyTraffic

/-- `fetchConfigs` goes on in one way if all `endpoints` list configurations. -/
theorem indifferent_fetchConfigs {endpoints : List Endpoint}
    (h : ∀ e ∈ endpoints, (e.path,
      Envelope.listExtension (Items (PolicyConfig.record.extension []))) ∈ Scrape.bodies) :
    Collection.Indifferent Scrape.Grown (fetchConfigs endpoints) := by
  induction endpoints with
  | nil => trivial
  | cons e rest ih =>
    obtain ⟨hfirst, hrest⟩ := List.forall_mem_cons.1 h
    exact (Scrape.indifferent_fetch hfirst (Envelope.respects_listDecoder
      (Record.respects_nil PolicyConfig.record).decoder.list) _).bind fun _ =>
        (ih hrest).bind fun _ => Collection.indifferent_pure _

/-- `fetchSamples` goes on in one way if all `sources` list statistics. -/
theorem indifferent_fetchSamples (index : CorrelationIndex PolicyConfig) {sources : List Source}
    (h : ∀ source ∈ sources, (source.endpoint.path,
      Envelope.listExtension (Items (record.extension []))) ∈ Scrape.bodies) :
    Collection.Indifferent Scrape.Grown (fetchSamples index sources) := by
  induction sources with
  | nil => trivial
  | cons source rest ih =>
    obtain ⟨hfirst, hrest⟩ := List.forall_mem_cons.1 h
    exact (Scrape.indifferent_fetch hfirst (Envelope.respects_listDecoder
      (Record.respects_nil record).decoder.list) _).bind fun _ =>
        (ih hrest).bind fun _ => Collection.indifferent_pure _

theorem indifferent_routine : routine.Indifferent := by
  intro ctx
  have hconfigs : ∀ e ∈ configEndpoints ctx.policy, (e.path,
      Envelope.listExtension (Items (PolicyConfig.record.extension []))) ∈ Scrape.bodies := by
    unfold configEndpoints
    split <;> simp [Scrape.bodies]
  have hsources : ∀ source ∈ sources ctx.policy, (source.endpoint.path,
      Envelope.listExtension (Items (record.extension []))) ∈ Scrape.bodies := by
    unfold sources
    split <;> simp [Scrape.bodies]
  exact (indifferent_fetchConfigs hconfigs).bind fun _ =>
    (Collection.indifferent_ofLogged _).bind fun index => indifferent_fetchSamples index hsources

end PolicyTraffic

namespace Scrape

/-- Every routine of `routineTable` goes on in one way, whatever its answers grow into. -/
theorem indifferent_routineTable : ∀ r ∈ routineTable, r.Indifferent := by
  -- Most answers are lists of flat records, in one envelope or in one for each virtual domain.
  have hdomains {α : Type} (r : Record Json α) :=
    Envelope.respects_listDecoder (Record.respects_nil r).decoder.list
  have hdevice {α : Type} (r : Record Json α) :=
    Envelope.respects_decoder (Record.respects_nil r).decoder.list
  have hlinks := Envelope.respects_listDecoder
    (Record.respects_nil LinkHealth.record).decoder.dict.dict
  simp only [routineTable, List.forall_mem_cons]
  exact ⟨DeviceInfo.indifferent_routine,
    Routine.indifferent_ofEndpoint (by simp [bodies]) (Envelope.respects_decoder Usage.respects),
    VirtualDomain.indifferent_routine,
    Routine.indifferent_ofEndpoint (by simp [bodies]) (hdevice ClusterMember.record),
    Routine.indifferent_ofEndpoint (by simp [bodies]) hlinks,
    Routine.indifferent_ofEndpointLogged (by simp [bodies]) (hdevice UpdateServer.record),
    Routine.indifferent_ofEndpoint (by simp [bodies])
      (Envelope.respects_decoder Sensor.respects.list),
    Routine.indifferent_ofEndpoint (by simp [bodies]) (Envelope.respects_decoder License.respects),
    Routine.indifferent_ofEndpoint (by simp [bodies]) (Envelope.respects_listDecoder
      (Record.respects_nil Interface.record).decoder.dict),
    PolicyTraffic.indifferent_routine,
    Routine.indifferent_ofEndpoint (by simp [bodies]) hlinks,
    Routine.indifferent_ofEndpoint (by simp [bodies])
      (Envelope.respects_listDecoder IpsecTunnel.respects.list),
    SslVpn.indifferent_routine,
    Routine.indifferent_ofEndpoint (by simp [bodies]) (hdomains BgpNeighbor.record),
    Routine.indifferent_ofEndpoint (by simp [bodies]) (hdomains BgpNeighbor.record),
    Routine.indifferent_ofEndpoint (by simp [bodies]) (hdomains BgpNeighbor.record),
    BgpPath.indifferent_countRoutine (by simp [bodies]) _ _,
    BgpPath.indifferent_countRoutine (by simp [bodies]) _ _,
    Routine.indifferent_ofEndpoint (by simp [bodies]) (hdomains OspfNeighbor.record),
    Routine.indifferent_ofEndpoint (by simp [bodies])
      (Envelope.respects_listDecoder AccessPoint.respects.list),
    Routine.indifferent_ofEndpointLogged (by simp [bodies])
      (Envelope.respects_listDecoder ManagedSwitch.respects.list),
    Routine.indifferent_ofEndpoint (by simp [bodies]) (hdevice Certificate.record),
    fun _ h => absurd h List.not_mem_nil⟩

/-! ## Scrapes -/

/-- New members of the status change nothing. -/
theorem indifferent_askStatus : askStatus.Indifferent Grown := by
  have hfetch : Collection.Indifferent Grown
      (Collection.fetch SystemStatus.decoder SystemStatus.path "") :=
    indifferent_fetch (by simp [bodies])
      (Envelope.respects_decoder (Record.respects_nil SystemStatus.record).decoder) ""
  refine Dialogue.Indifferent.bind hfetch fun result => ?_
  cases result <;> trivial

/-- `Routine.run` is indifferent if the body is. -/
theorem indifferent_run {r : Routine} (h : r.Indifferent) (ctx : ScrapeContext) :
    (r.run ctx).Indifferent Grown := by
  have hattempt : (r.attempt ctx).Indifferent Grown :=
    Dialogue.Indifferent.bind (h ctx) fun result => by cases result <;> trivial
  unfold Routine.run
  split
  · exact hattempt
  · split
    · exact hattempt
    · trivial

/-- `runAll` is indifferent if each of the `routines` is. -/
theorem indifferent_runAll (ctx : ScrapeContext) (report : ScrapeReport) {routines : List Routine}
    (h : ∀ r ∈ routines, r.Indifferent) : (runAll ctx report routines).Indifferent Grown := by
  induction routines generalizing report with
  | nil => trivial
  | cons r rest ih =>
    obtain ⟨hr, hrest⟩ := List.forall_mem_cons.1 h
    exact (indifferent_run hr ctx).bind fun _ => ih _ hrest

/-- A scrape goes on in one way, whatever its answers grow into. -/
theorem indifferent_scrape (options : ProbeOptions) : (scrape options).Indifferent Grown := by
  refine Dialogue.Indifferent.bind (indifferent_askStatus.bind fun _ =>
    (Dialogue.indifferent_noteAll _).bind fun _ => trivial) fun ctx => ?_
  refine (indifferent_runAll ctx _ fun r hr => ?_).bind fun _ => trivial
  exact indifferent_routineTable r (List.mem_filter.1 hr).1

/-- Members that are no fields never change a result.  Two devices go through the same states, and
whatever `device'` answers is what `device` answers or what this may grow into, as listed for the
endpoint.  Then every routine has one run against both: the same samples or the same error, with the
same calls and events.  The same holds of a whole scrape. -/
theorem unknown_fields_ignored (device device' : Device σ) (h : device.Differ Grown device') :
    (∀ r ∈ routineTable, ∀ ctx s,
      (r.collect ctx).run.run device s = (r.collect ctx).run.run device' s) ∧
    ∀ options s, (scrape options).run device s = (scrape options).run device' s :=
  ⟨fun r hr ctx s => (indifferent_routineTable r hr ctx).run_eq h s,
    fun options s => (indifferent_scrape options).run_eq h s⟩

/-- The ports of a switch are reported alike if each object of the answer has one more member. -/
theorem unknown_fields_ignored_switch :
    let port (more : List (String × Json)) : Json :=
      .obj (more ++ [("interface", .str "port1"), ("status", .str "up")])
    let counters (more : List (String × Json)) : Json := .obj (more ++ [("rx_bytes", .int 7)])
    let switch (more : List (String × Json)) : Json :=
      .obj (more ++ [("name", .str "s1"), ("port_stats", .obj [("port1", counters more)]),
        ("ports", .arr [port more])])
    let body (more : List (String × Json)) : Json :=
      .arr [.obj (more ++ [("results", .arr [switch more]), ("vdom", .str "root")])]
    let device (body : Json) : Device Unit := .ofFunction (answersFrom
      [("monitor/switch-controller/managed-switch", .ok body)] (.error (.timeout "other")))
    let extra := [("extra", Json.bool true)]
    let ports (body : Json) :=
      ((ManagedSwitch.routine.collect ⟨none, none, {}⟩).run.run (device body) ()).value
    ∃ samples, samples.length = 10 ∧ ports (body []) = .ok samples ∧
      ports (body extra) = .ok samples := by
  intro port counters switch body device extra ports
  have hport : PortConfig.record.extension [] (port []) (port extra) :=
    .members (.inserted (by decide) (.kept (.inl rfl) (.kept (.inl rfl) .nil)))
  have hcounters : PortCounters.record.extension [] (counters []) (counters extra) :=
    .members (.inserted (by decide) (.kept (.inl rfl) .nil))
  have hstats : At [("ports", Items (PortConfig.record.extension [])),
      ("port_stats", Values (PortCounters.record.extension []))] "port_stats"
      (.obj [("port1", counters [])]) (.obj [("port1", counters extra)]) :=
    .inr ⟨_, .tail _ (.head _), .members (.cons ⟨rfl, hcounters⟩ .nil)⟩
  have hports : At [("ports", Items (PortConfig.record.extension [])),
      ("port_stats", Values (PortCounters.record.extension []))] "ports"
      (.arr [port []]) (.arr [port extra]) := .inr ⟨_, .head _, .items (.cons hport .nil)⟩
  have hswitch : ManagedSwitch.extension (switch []) (switch extra) :=
    .members (.inserted (by decide) (.kept (.inl rfl) (.kept hstats (.kept hports .nil))))
  have hbody : Envelope.listExtension (Items ManagedSwitch.extension) (body []) (body extra) :=
    .items (.cons (.members (.inserted (by decide) (.kept
      (.inr ⟨_, .head _, .items (.cons hswitch .nil)⟩) (.kept (.inl rfl) .nil)))) .nil)
  -- Only one endpoint has an answer, and its row of the list is the one for switches.
  have hdiffer : (device (body [])).Differ Grown (device (body extra)) := by
    refine fun _ e => ⟨?_, rfl⟩
    show Grown e (answersFrom _ _ e) (answersFrom _ _ e)
    rw [answersFrom, answersFrom, List.lookup_cons, List.lookup_cons]
    split
    next hpath =>
      refine .ok fun R hR => ?_
      have hrow : R = Envelope.listExtension (Items ManagedSwitch.extension) := by
        simpa [eq_of_beq hpath, bodies, SystemStatus.path, VirtualDomain.path, BgpNeighbor.ipv4Path,
          BgpNeighbor.ipv6Path] using hR
      exact hrow ▸ hbody
    · exact .error _
  have hlength : (ports (body [])).toOption.map List.length = some 10 := by decide +kernel
  obtain ⟨samples, hsamples, hten⟩ := Option.map_eq_some_iff.1 hlength
  rw [Except.toOption_eq_some_iff] at hsamples
  have hsame := (unknown_fields_ignored _ _ hdiffer).1 ManagedSwitch.routine
    (by simp [routineTable]) ⟨none, none, {}⟩ ()
  exact ⟨samples, hten, hsamples, (congrArg (·.value) hsame).symm.trans hsamples⟩

end Scrape
end FirewallProbe
