import Mathlib.Data.List.Forall2
import Mathlib.Data.List.Nodup
import FirewallProbe.Proofs.Emission.Basic
import FirewallProbe.Proofs.TextBytes
import FirewallProbe.RoutineTable

/-!
# The catalog of all families

Each kind of resource has a catalog of its families, and its routine emits nothing else.  The
catalogs together are those of the table of routines.

## Key results

- `staysIn_routineTable`: every routine of the table emits from the catalog only
- `nodup_names_catalog`: a name tells the family
- `failureNotices_scrape`: the log of a scrape names the routines that failed
-/

namespace FirewallProbe

/-! ## Events of bodies -/

/-- `parseNumber` notes no failure of a routine. -/
private theorem isFailureNotice_of_mem_parseNumber {raw : String} {e : Event}
    (he : e ∈ (parseNumber raw).events) : e.isFailureNotice = false := by
  simp only [parseNumber] at he
  split at he
  · simp at he
  · split at he
    · simp at he
    · rw [List.mem_singleton.1 he]
      rfl

/-- `roundTripOfJson` notes no failure of a routine. -/
private theorem isFailureNotice_of_mem_roundTrip {v : Json} {e : Event}
    (he : e ∈ (roundTripOfJson v).events) : e.isFailureNotice = false := by
  have hbad : ∀ w, e ∈ [unexpectedRoundTripEvent w] → e.isFailureNotice = false := by
    intro w hw
    rw [List.mem_singleton.1 hw]
    rfl
  cases v with
  | int n => simp [roundTripOfJson] at he
  | float x => simp [roundTripOfJson] at he
  | null => simp [roundTripOfJson] at he
  | str raw =>
    rw [roundTripOfJson, parseRoundTrip] at he
    split at he
    · simp at he
    · rw [Logged.events_bind, Logged.events_pure, List.append_nil] at he
      exact isFailureNotice_of_mem_parseNumber he
  | bool b => exact hbad _ he
  | arr items => exact hbad _ he
  | obj members => exact hbad _ he

/-- `addAll` notes nothing but replaced records. -/
theorem CorrelationIndex.exists_of_mem_events_addAll {α : Type} {keyOf : α → String}
    {index : CorrelationIndex α} {records : List α} {e : Event}
    (he : e ∈ (addAll keyOf index records).events) : ∃ key, e = duplicateKeyEvent key := by
  induction records generalizing index with
  | nil => simp [addAll] at he
  | cons record rest ih =>
    rcases List.mem_append.1 he with he | he
    · unfold add at he
      dsimp only at he
      split at he
      · exact ⟨_, List.mem_singleton.1 he⟩
      · simp at he
    · exact ih he

/-- `build` notes no failure of a routine. -/
private theorem isFailureNotice_of_mem_build {α : Type} {keyOf : α → String} {records : List α}
    {e : Event} (he : e ∈ (CorrelationIndex.build keyOf records).events) :
    e.isFailureNotice = false := by
  obtain ⟨key, rfl⟩ := CorrelationIndex.exists_of_mem_events_addAll he
  rfl

/-! ## Devices and their parts -/

namespace DeviceInfo

def catalog : Catalog where
  plain := [versionInfo]

theorem staysIn_routine : routine.StaysIn catalog := by
  intro ctx
  cases hstatus : ctx.status with
  | none =>
    simp only [routine, hstatus]
    exact Collection.within_throw _
  | some status =>
    simp only [routine, hstatus]
    exact Collection.within_pure (emits_single (by simp [catalog]) rfl)

end DeviceInfo

namespace Usage

def catalog : Catalog where
  plain := [cpuUsage, memoryUsage, diskUsage, currentSessions]

/-- `Usage.first` emits the first of the `readings`, if there is one. -/
theorem emits_first {family : Family} {labels : List String} {convert : Float → Float}
    {readings : List UsageSample} (hfamily : family ∈ catalog.plain)
    (hlabels : labels.length = family.labels.length) :
    Emits catalog (first family labels convert readings) :=
  emits_toList readings.head? hfamily hlabels

theorem emits_samples (usage : Usage) : Emits catalog (samples usage) := by
  unfold samples
  repeat' apply Emits.append
  all_goals exact emits_first (by simp [catalog]) (by rfl)

theorem staysIn_routine : routine.StaysIn catalog :=
  Routine.staysIn_ofEndpoint fun e => emits_samples e.results

end Usage

theorem DomainUsage.length_labels : ∀ m ∈ measurements, m.family.labels.length = 1 := by decide

theorem ObjectUsage.length_labels : ∀ m ∈ measurements, m.family.labels.length = 2 := by decide

namespace VirtualDomain

def catalog : Catalog where
  plain := DomainUsage.measurements.map (·.family) ++ ObjectUsage.measurements.map (·.family)

theorem emits_samples (vdom : String) (r : Resources) : Emits catalog (samples vdom r) := by
  refine (emits_measurements (List.subset_append_left _ _) DomainUsage.length_labels).append ?_
  exact emits_flatMap fun _ _ =>
    emits_measurements (List.subset_append_right _ _) ObjectUsage.length_labels

/-- If all virtual domains can be split, each is reported with its own resources. -/
theorem exists_parts_of_samplesOfAll {envelopes : List (Envelope Json)} {all : List Sample}
    (h : samplesOfAll envelopes = .ok all) :
    ∃ parts : List (String × Resources), parts.map (·.1) = envelopes.map (·.vdom) ∧
      all = parts.flatMap fun p => samples p.1 p.2 := by
  induction envelopes generalizing all with
  | nil =>
    cases h
    exact ⟨[], rfl, rfl⟩
  | cons e rest ih =>
    rw [samplesOfAll] at h
    cases hread : readResources e.results with
    | error cause => simp [hread, Except.mapError, bind, Except.bind] at h
    | ok resources =>
      cases hrest : samplesOfAll rest with
      | error cause => simp [hread, hrest, Except.mapError, bind, Except.bind] at h
      | ok others =>
        simp only [hread, hrest, Except.mapError, bind, Except.bind, pure, Except.pure,
          Except.ok.injEq] at h
        -- Only when this one and all others can be split is there anything to report.
        obtain ⟨parts, hdomains, rfl⟩ := ih hrest
        exact ⟨(e.vdom, resources) :: parts, by simp [hdomains], h.symm⟩

theorem emits_samplesOfAll {envelopes : List (Envelope Json)} {all : List Sample}
    (h : samplesOfAll envelopes = .ok all) : Emits catalog all := by
  obtain ⟨parts, -, rfl⟩ := exists_parts_of_samplesOfAll h
  exact emits_flatMap fun p _ => emits_samples p.1 p.2

theorem staysIn_routine : routine.StaysIn catalog := by
  intro ctx
  refine (Collection.within_fetch _ trivial).bind fun envelopes _ => ?_
  show (routine.liftExcept (samplesOfAll envelopes)).Within _ _ _
  cases hall : samplesOfAll envelopes with
  | error cause => exact trivial
  | ok all => exact emits_samplesOfAll hall

end VirtualDomain

namespace ClusterMember

def catalog : Catalog where
  plain := measurements.map (·.family)

theorem staysIn_routine : routine.StaysIn catalog := by
  have hlabels : ∀ m ∈ measurements, m.family.labels.length = 2 := by decide
  exact Routine.staysIn_ofEndpoint fun e =>
    emits_flatMap fun _ _ => emits_measurements (List.Subset.refl _) hlabels

end ClusterMember

namespace UpdateServer

def catalog : Catalog where
  plain := [roundTripSeconds, weightFamily, packetLossTotal]

theorem emits_samples (s : UpdateServer) : Emits catalog (samples s).value := by
  have hroundTrip : roundTripSeconds ∈ catalog.plain := by simp [catalog]
  have hweight : weightFamily ∈ catalog.plain := by simp [catalog]
  have hloss : packetLossTotal ∈ catalog.plain := by simp [catalog]
  exact (emits_single hroundTrip (by rfl)).append
    ((emits_single hweight (by rfl)).append (emits_single hloss (by rfl)))

theorem staysIn_routine : routine.StaysIn catalog := by
  refine Routine.staysIn_ofEndpointLogged (fun envelope e he => ?_) fun envelope => ?_
  · rw [Logged.events_flatMap] at he
    obtain ⟨server, _, he⟩ := List.mem_flatMap.1 he
    have hevents : (samples server).events = (roundTripOfJson server.roundTrip).events := by
      simp [samples]
    rw [hevents] at he
    exact isFailureNotice_of_mem_roundTrip he
  · rw [Logged.value_flatMap]
    exact emits_flatMap fun server _ => emits_samples server

end UpdateServer

namespace Sensor

def catalog : Catalog where
  plain := measurements.map (·.family)
  stateful := [⟨alarmStatus, alarmStates⟩]

theorem emits_samples (s : Sensor) : Emits catalog (samples s) := by
  have hlabels : ∀ m ∈ measurements, m.family.labels.length = 2 := by decide
  have hstates : ⟨alarmStatus, alarmStates⟩ ∈ catalog.stateful := by simp [catalog]
  refine (emits_states hstates (by rfl)).append ?_
  split
  · exact emits_measurements (List.Subset.refl _) hlabels
  · exact emits_nil

theorem staysIn_routine : routine.StaysIn catalog :=
  Routine.staysIn_ofEndpoint fun _ => emits_flatMap fun s _ => emits_samples s

end Sensor

namespace License

def catalog : Catalog where
  plain := [domainsUsed, domainsAvailable, entitlementExpiry]
  stateful := [⟨registrationStatus, registrationStates⟩, ⟨entitlementStatus, entitlementStates⟩]

theorem emits_entitlementSamples (name : String) (e : Entitlement) :
    Emits catalog (entitlementSamples name e) := by
  have hstates : ⟨entitlementStatus, entitlementStates⟩ ∈ catalog.stateful := by simp [catalog]
  have hexpiry : entitlementExpiry ∈ catalog.plain := by simp [catalog]
  exact (emits_states hstates (by rfl)).append (emits_toList e.expires hexpiry (by rfl))

theorem emits_samples (license : MixedRecord LicenseSections Entitlement) :
    Emits catalog (samples license) := by
  have hstates : ⟨registrationStatus, registrationStates⟩ ∈ catalog.stateful := by simp [catalog]
  have hused : domainsUsed ∈ catalog.plain := by simp [catalog]
  have havailable : domainsAvailable ∈ catalog.plain := by simp [catalog]
  refine (((emits_toList license.fixed.domains.used hused (by rfl)).append
    (emits_toList license.fixed.domains.available havailable (by rfl))).append
    (emits_states hstates (by rfl))).append ?_
  exact emits_flatMap fun p _ => emits_entitlementSamples p.1 p.2

theorem staysIn_routine : routine.StaysIn catalog :=
  Routine.staysIn_ofEndpoint fun e => emits_samples e.results

end License

namespace Certificate

def catalog : Catalog where
  plain := measurements.map (·.family)
  stateful := [⟨statusFamily, states⟩]

theorem emits_samples (c : Certificate) : Emits catalog (samples c) := by
  have hlabels : ∀ m ∈ measurements, m.family.labels.length = 3 := by decide
  have hstates : ⟨statusFamily, states⟩ ∈ catalog.stateful := by simp [catalog]
  exact (emits_states hstates (by rfl)).append
    (emits_measurements (List.Subset.refl _) hlabels)

theorem staysIn_routine : routine.StaysIn catalog :=
  Routine.staysIn_ofEndpoint fun _ => emits_flatMap fun c _ => emits_samples c

end Certificate

/-! ## Interfaces and links -/

namespace Interface

def catalog : Catalog where
  plain := measurements.map (·.family)

theorem length_labels : ∀ m ∈ measurements, m.family.labels.length = 4 := by decide

theorem staysIn_routine : routine.StaysIn catalog :=
  Routine.staysIn_ofEndpoint fun _ => emits_flatMap fun _ _ => emits_flatMap fun _ _ =>
    emits_measurements (List.Subset.refl _) length_labels

end Interface

namespace LinkFamilies

def catalog (f : LinkFamilies) : Catalog where
  plain := f.measurements.map (·.family)
  stateful := [⟨f.status, f.states⟩]

/-- The families of one kind of link, if monitor and interface are among their labels. -/
theorem staysIn_routine {f : LinkFamilies} (hstatus : f.status.labels.length = 4)
    (hlabels : ∀ m ∈ f.measurements, m.family.labels.length = 3) (name path : String) :
    (f.routine name path).StaysIn f.catalog := by
  have hstates : ⟨f.status, f.states⟩ ∈ f.catalog.stateful := by simp [catalog]
  have hsamples : ∀ vdom monitor interface s,
      Emits f.catalog (f.samples [vdom, monitor, interface] s) := by
    intro vdom monitor interface s
    have hlength : [vdom, monitor, interface].length + 1 = f.status.labels.length := hstatus.symm
    exact (emits_states hstates hlength).append
      (emits_measurements (List.Subset.refl _) hlabels)
  exact Routine.staysIn_ofEndpoint fun _ => emits_flatMap fun _ _ => emits_flatMap fun _ _ =>
    emits_flatMap fun _ _ => hsamples _ _ _ _

end LinkFamilies

namespace OspfNeighbor

def catalog : Catalog where
  plain := [priorityFamily]
  stateful := [⟨stateFamily, states⟩]

theorem emits_samples (vdom : String) (n : OspfNeighbor) : Emits catalog (samples vdom n) := by
  have hstates : ⟨stateFamily, states⟩ ∈ catalog.stateful := by simp [catalog]
  have hpriority : priorityFamily ∈ catalog.plain := by simp [catalog]
  exact (emits_states hstates (by rfl)).append (emits_single hpriority (by rfl))

theorem staysIn_routine : routine.StaysIn catalog :=
  Routine.staysIn_ofEndpoint fun _ => emits_flatMap fun p _ => emits_samples p.1 p.2

end OspfNeighbor

namespace BgpNeighbor

/-- The catalog of the state numbers of one protocol. -/
def infoCatalog (family : Family) : Catalog where
  plain := [family]

theorem emits_infoSamples {family : Family} (hlabels : family.labels.length = 5)
    (envelopes : List (Envelope (List BgpNeighbor))) :
    Emits (infoCatalog family) (infoSamples family envelopes) := by
  have hfamily : family ∈ (infoCatalog family).plain := by simp [infoCatalog]
  rw [infoSamples, List.map_eq_flatMap]
  exact emits_flatMap fun _ _ => emits_single hfamily hlabels.symm

theorem staysIn_ipv4Routine : ipv4Routine.StaysIn (infoCatalog ipv4Info) :=
  Routine.staysIn_ofEndpoint (emits_infoSamples rfl)

theorem staysIn_ipv6Routine : ipv6Routine.StaysIn (infoCatalog ipv6Info) :=
  Routine.staysIn_ofEndpoint (emits_infoSamples rfl)

/-- The catalog of the state indicators. -/
def stateCatalog : Catalog where
  plain := [ipv4AdminUp]
  stateful := [⟨ipv4State, states⟩]

theorem emits_stateSamples (vdom : String) (n : BgpNeighbor) :
    Emits stateCatalog (stateSamples vdom n) := by
  have hstates : ⟨ipv4State, states⟩ ∈ stateCatalog.stateful := by simp [stateCatalog]
  have hadmin : ipv4AdminUp ∈ stateCatalog.plain := by simp [stateCatalog]
  exact (emits_states hstates (by rfl)).append (emits_single hadmin (by rfl))

theorem staysIn_ipv4StateRoutine : ipv4StateRoutine.StaysIn stateCatalog :=
  Routine.staysIn_ofEndpoint fun _ => emits_flatMap fun p _ => emits_stateSamples p.1 p.2

end BgpNeighbor

namespace BgpPath

/-- The catalog of the counts of one protocol. -/
def Families.catalog (f : Families) : Catalog where
  plain := [f.paths, f.best]

/-- The counts of one protocol, if both families have the labels of a neighbour. -/
theorem staysIn_countRoutine {f : Families} (hpaths : f.paths.labels = labelNames)
    (hbest : f.best.labels = labelNames) (name path : String) :
    (countRoutine name path f).StaysIn f.catalog := by
  intro ctx
  refine (Collection.within_fetch _ trivial).bind fun envelopes _ => ?_
  refine Collection.within_ofLogged (fun e he => ?_) (emits_flatMap fun p hp => ?_)
  · obtain ⟨envelope, _, rfl⟩ := List.mem_map.1 he
    rfl
  · -- A group is labelled by the pair of one of its paths.
    obtain ⟨key, hkey, rfl⟩ := List.mem_map.1 hp
    obtain ⟨pair, _, rfl⟩ := List.mem_map.1 (mem_distinctKeys.1 hkey)
    have hmem : f.paths ∈ f.catalog.plain ∧ f.best ∈ f.catalog.plain := by
      simp [Families.catalog]
    have hlength : ∀ g : Family, g.labels = labelNames →
        [pair.1, pair.2.learnedFrom].length = g.labels.length := by
      intro g hg
      rw [hg]
      rfl
    exact (emits_single hmem.1 (hlength _ hpaths)).append (emits_single hmem.2 (hlength _ hbest))

end BgpPath

/-! ## Policies and tunnels -/

namespace PolicyTraffic

def catalog : Catalog where
  plain := measurements.map (·.family)

theorem emits_samplesOfSource (index : CorrelationIndex PolicyConfig) (protocol : String)
    (envelopes : List (Envelope (List PolicyTraffic))) :
    Emits catalog (samplesOfSource index protocol envelopes) := by
  have hlabels : ∀ m ∈ measurements, m.family.labels.length = 5 := by decide
  exact emits_flatMap fun _ _ => emits_flatMap fun _ _ =>
    emits_measurements (List.Subset.refl _) hlabels

/-- `fetchConfigs` notes replaced records, and no failure of a routine. -/
theorem within_fetchConfigs (endpoints : List Endpoint) :
    (fetchConfigs endpoints).Within (fun _ => True) (fun e => e.isFailureNotice = false)
      fun _ => True := by
  induction endpoints with
  | nil => exact Collection.within_pure trivial
  | cons endpoint rest ih =>
    exact (Collection.within_fetch _ trivial).bind fun _ _ =>
      ih.bind fun _ _ => Collection.within_pure trivial

/-- `fetchSamples` emits from the catalog, whatever the `sources` answer. -/
theorem within_fetchSamples (index : CorrelationIndex PolicyConfig) (sources : List Source) :
    (fetchSamples index sources).Within (fun _ => True) (fun e => e.isFailureNotice = false)
      (Emits catalog) := by
  induction sources with
  | nil => exact Collection.within_pure emits_nil
  | cons source rest ih =>
    refine (Collection.within_fetch _ trivial).bind fun envelopes _ => ?_
    have hown := emits_samplesOfSource index source.protocol envelopes
    exact ih.bind fun _ hothers => Collection.within_pure (hown.append hothers)

theorem staysIn_routine : routine.StaysIn catalog := by
  intro ctx
  refine (within_fetchConfigs _).bind fun configs _ => ?_
  have hindex : (Collection.ofLogged (CorrelationIndex.build (·.uuid) configs)).Within
      (fun _ => True) (fun e => e.isFailureNotice = false) fun _ => True :=
    Collection.within_ofLogged (fun _ => isFailureNotice_of_mem_build) trivial
  exact hindex.bind fun index _ => within_fetchSamples index _

end PolicyTraffic

namespace IpsecTunnel

def catalog : Catalog where
  plain := measurements.map (·.family)
  stateful := [⟨statusFamily, states⟩]

theorem emits_samples (vdom : String) (t : IpsecTunnel) : Emits catalog (samples vdom t) := by
  have hlabels : ∀ m ∈ measurements, m.family.labels.length = 4 := by decide
  have hstates : ⟨statusFamily, states⟩ ∈ catalog.stateful := by simp [catalog]
  exact emits_flatMap fun _ _ => (emits_states hstates (by rfl)).append
    (emits_measurements (List.Subset.refl _) hlabels)

theorem staysIn_routine : routine.StaysIn catalog :=
  Routine.staysIn_ofEndpoint fun _ => emits_flatMap fun p _ => emits_samples p.1 p.2

end IpsecTunnel

namespace SslVpn

def catalog : Catalog where
  plain := measurements.map (·.family) ++ [userSessions, userTunnels]

theorem length_labels : ∀ m ∈ measurements, m.family.labels.length = 1 := by decide

theorem emits_statsSamples (envelopes : List (Envelope SslStats)) :
    Emits catalog (statsSamples envelopes) :=
  emits_flatMap fun _ _ => emits_measurements (List.subset_append_left _ _) length_labels

theorem emits_sessionSamples (envelopes : List (Envelope (List SslSession))) :
    Emits catalog (sessionSamples envelopes) := by
  have hsessions : userSessions ∈ catalog.plain := by simp [catalog]
  have htunnels : userTunnels ∈ catalog.plain := by simp [catalog]
  exact emits_flatMap fun _ _ => emits_flatMap fun _ _ =>
    (emits_single hsessions (by rfl)).append (emits_single htunnels (by rfl))

theorem staysIn_routine : routine.StaysIn catalog := fun _ =>
  (Collection.within_fetch _ trivial).bind fun stats _ =>
    (Collection.within_fetch _ trivial).bind fun sessions _ =>
      Collection.within_pure ((emits_statsSamples stats).append (emits_sessionSamples sessions))

end SslVpn

/-! ## Access points and switches -/

namespace AccessPoint

def catalog : Catalog where
  plain := measurements.map (·.family) ++ Radio.measurements.map (·.family)
  stateful := [⟨joinState, states⟩]

theorem emits_samples (vdom : String) (p : AccessPoint) : Emits catalog (samples vdom p) := by
  have hlabels : ∀ m ∈ measurements, m.family.labels.length = 3 := by decide
  have hradio : ∀ m ∈ Radio.measurements, m.family.labels.length = 4 := by decide
  have hstates : ⟨joinState, states⟩ ∈ catalog.stateful := by simp [catalog]
  have hpoint : Emits catalog (Measurement.samples measurements [vdom, p.name, p.serial] p) :=
    emits_measurements (List.subset_append_left _ _) hlabels
  refine ((emits_states hstates (by rfl)).append hpoint).append ?_
  exact emits_flatMap fun _ _ => emits_measurements (List.subset_append_right _ _) hradio

theorem staysIn_routine : routine.StaysIn catalog :=
  Routine.staysIn_ofEndpoint fun _ => emits_flatMap fun p _ => emits_samples p.1 p.2

end AccessPoint

namespace ManagedSwitch

def catalog : Catalog where
  plain := PortCounters.measurements.map (·.family)
  stateful := [⟨portStatus, portStates⟩]

theorem emits_samples (vdom : String) (s : ManagedSwitch) :
    Emits catalog (samples vdom s).value := by
  have hlabels : ∀ m ∈ PortCounters.measurements, m.family.labels.length = 4 := by decide
  have hstates : ⟨portStatus, portStates⟩ ∈ catalog.stateful := by simp [catalog]
  exact emits_flatMap fun _ _ => (emits_states hstates (by rfl)).append
    (emits_measurements (List.Subset.refl _) hlabels)

theorem staysIn_routine : routine.StaysIn catalog := by
  refine Routine.staysIn_ofEndpointLogged (fun envelopes e he => ?_) fun envelopes => ?_
  · rw [samplesOfAll, Logged.events_flatMap] at he
    obtain ⟨p, _, he⟩ := List.mem_flatMap.1 he
    have hevents : (samples p.1 p.2).events =
        (CorrelationIndex.build (·.interface) p.2.ports).events := by
      simp [samples]
    rw [hevents] at he
    exact isFailureNotice_of_mem_build he
  · rw [samplesOfAll, Logged.value_flatMap]
    exact emits_flatMap fun p _ => emits_samples p.1 p.2

end ManagedSwitch

/-! ## The table -/

/-- The catalogs of the table's routines, in the order of the table. -/
def catalogs : List Catalog := [
  DeviceInfo.catalog,
  Usage.catalog,
  VirtualDomain.catalog,
  ClusterMember.catalog,
  LinkMonitor.families.catalog,
  UpdateServer.catalog,
  Sensor.catalog,
  License.catalog,
  Interface.catalog,
  PolicyTraffic.catalog,
  WanHealth.families.catalog,
  IpsecTunnel.catalog,
  SslVpn.catalog,
  BgpNeighbor.infoCatalog BgpNeighbor.ipv4Info,
  BgpNeighbor.stateCatalog,
  BgpNeighbor.infoCatalog BgpNeighbor.ipv6Info,
  BgpPath.ipv4Families.catalog,
  BgpPath.ipv6Families.catalog,
  OspfNeighbor.catalog,
  AccessPoint.catalog,
  ManagedSwitch.catalog,
  Certificate.catalog]

/-- Every routine of `routineTable` has a catalog of its own. -/
theorem staysIn_catalogs : List.Forall₂ Routine.StaysIn routineTable catalogs := by
  exact .cons DeviceInfo.staysIn_routine <| .cons Usage.staysIn_routine <|
    .cons VirtualDomain.staysIn_routine <| .cons ClusterMember.staysIn_routine <|
    .cons (LinkFamilies.staysIn_routine (by decide) (by decide) _ _) <|
    .cons UpdateServer.staysIn_routine <| .cons Sensor.staysIn_routine <|
    .cons License.staysIn_routine <| .cons Interface.staysIn_routine <|
    .cons PolicyTraffic.staysIn_routine <|
    .cons (LinkFamilies.staysIn_routine (by decide) (by decide) _ _) <|
    .cons IpsecTunnel.staysIn_routine <| .cons SslVpn.staysIn_routine <|
    .cons BgpNeighbor.staysIn_ipv4Routine <| .cons BgpNeighbor.staysIn_ipv4StateRoutine <|
    .cons BgpNeighbor.staysIn_ipv6Routine <|
    .cons (BgpPath.staysIn_countRoutine rfl rfl _ _) <|
    .cons (BgpPath.staysIn_countRoutine rfl rfl _ _) <|
    .cons OspfNeighbor.staysIn_routine <| .cons AccessPoint.staysIn_routine <|
    .cons ManagedSwitch.staysIn_routine <| .cons Certificate.staysIn_routine .nil

/-- All families of the table's routines. -/
def catalog : Catalog := .join catalogs

/-- The families of states. -/
example : catalog.stateful.map (·.family.name) = [
    "fortigate_link_status", "fortigate_sensor_alarm_status",
    "fortigate_license_forticare_registration_status", "fortigate_license_status",
    "fortigate_virtual_wan_status", "fortigate_ipsec_tunnel_status",
    "fortigate_bgp_neighbor_ipv4_state", "fortigate_ospf_neighbor_state",
    "fortigate_wifi_access_point_join_state", "fortigate_managed_switch_port_status",
    "fortigate_certificate_status"] := rfl

/-- Every routine of `routineTable` emits from the `catalog` only. -/
theorem staysIn_routineTable : ∀ r ∈ routineTable, r.StaysIn catalog := by
  intro r hr ctx
  have hown : ∃ c ∈ catalogs, r.StaysIn c := by
    obtain ⟨i, hi, rfl⟩ := List.getElem_of_mem hr
    have hlength : i < catalogs.length := staysIn_catalogs.length_eq ▸ hi
    exact ⟨catalogs[i], List.getElem_mem hlength, staysIn_catalogs.get hi hlength⟩
  obtain ⟨c, hc, hstays⟩ := hown
  exact Collection.Within.mono (hstays ctx) fun _ hsamples => hsamples.join hc

/-- No two families of the `catalog` have one name. -/
theorem nodup_names_catalog : (catalog.families.map (·.name)).Nodup :=
  List.Nodup.of_map Text.numberOf (by decide +kernel)

/-- A scrape names in its log exactly the routines that failed, once each and in order. -/
theorem failureNotices_scrape {σ : Type} (device : Device σ) (options : ProbeOptions) (s : σ) :
    failureNotices ((scrape options).run device s).events =
      (((scrape options).run device s).value.routines.filter
        fun e => e.label = "failed").map fun e => some e.name := by
  refine Scrape.failureNotices_run_of_quiet fun t ht => ?_
  have hchosen : ∀ r ∈ Scrape.chosen options routineTable, r.StaysIn catalog := fun r hr =>
    staysIn_routineTable r (List.mem_filter.1 hr).1
  exact (Scrape.of_mem_turns_of_staysIn device hchosen ht).2

end FirewallProbe
