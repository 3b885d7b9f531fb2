import FirewallProbe.Proofs.Scrape.LinkMeasurements

/-!
# Series that stay

What is measured of an entity and the state it is in change from scrape to scrape; its series do
not.  Two answers that list the same entities in the same order give the same sequence of series,
whatever else differs between them, since a state becomes one sample for each state that is known,
and a measurement that is missing becomes NaN.

## Key results

- `map_flatMap_eq_of_keys`: blocks that depend on keys alone
- `identity_samplePerState` / `identity_measurements`: the series of one entity
- `EntityRoutine.IsStable`: a routine whose series depend on the entities alone
- `series_depend_on_entities`: the routines whose series stay
-/

namespace FirewallProbe

/-- What is left of a sample without its value. -/
def Sample.identity (x : Sample) : String × Kind × List (String × String) :=
  (x.name, x.kind, x.labels)

/-! ## The series of one entity -/

/-- Lists with the same keys give the same blocks, up to `g`, if a `block` depends on its key
alone. -/
theorem map_flatMap_eq_of_keys {α : Type u} {β : Type v} {γ : Type w} {κ : Type x}
    {key : α → κ} {block : α → List β} {g : β → γ}
    (hblock : ∀ a b, key a = key b → (block a).map g = (block b).map g) {as bs : List α}
    (h : as.map key = bs.map key) : (as.flatMap block).map g = (bs.flatMap block).map g := by
  induction as generalizing bs with
  | nil =>
    obtain rfl := List.map_eq_nil_iff.1 h.symm
    rfl
  | cons a as ih =>
    cases bs with
    | nil => cases h
    | cons b bs =>
      obtain ⟨hfirst, hrest⟩ := List.cons_eq_cons.1 h
      rw [List.flatMap_cons, List.flatMap_cons, List.map_append, List.map_append,
        hblock a b hfirst, ih hrest]

/-- `samplePerState` has one sample for each state, whatever the status is. -/
theorem identity_samplePerState (f : Family) (labels known : List String)
    (status status' : String) :
    (f.samplePerState labels status known).map Sample.identity =
      (f.samplePerState labels status' known).map Sample.identity := by
  simp only [Family.samplePerState, fanOut, List.map_map]
  rfl

/-- Every measurement of a table has a value, whatever it is taken of. -/
def HasAllValues {α : Type} (table : List (Measurement α)) : Prop :=
  ∀ m ∈ table, ∀ a, ∃ value, m.value? a = some value

/-- `Measurement.samples` has one sample for each measurement that is always made. -/
theorem identity_measurements {α : Type} {table : List (Measurement α)} (h : HasAllValues table)
    (labels : List String) (a b : α) :
    (Measurement.samples table labels a).map Sample.identity =
      (Measurement.samples table labels b).map Sample.identity := by
  induction table with
  | nil => rfl
  | cons m rest ih =>
    -- Both entities have a value for the first measurement, so neither drops its sample.
    obtain ⟨x, hx⟩ := h m List.mem_cons_self a
    obtain ⟨y, hy⟩ := h m List.mem_cons_self b
    have hrest := ih fun m hm => h m (List.mem_cons_of_mem _ hm)
    simp only [Measurement.samples, Measurement.sample?, List.filterMap_cons, hx, hy,
      Option.map_some, List.map_cons] at hrest ⊢
    rw [hrest]
    rfl

/-! ## Routines about entities -/

/-- A routine that reports on the entities that the answer of one endpoint lists. -/
structure EntityRoutine where
  routine : Routine
  path : String
  /-- What the answer is read as. -/
  Contents : Type
  decoder : Decoder Contents
  /-- The label values that identify the entities, in the order in which they are listed. -/
  entities : Contents → List (List String)

namespace EntityRoutine

variable {σ : Type}

/-- The answer of a device is read as some contents. -/
def Reads (l : EntityRoutine) (device : Device σ) (s : σ) (contents : l.Contents) : Prop :=
  Collection.readAnswer l.decoder l.path (device.answer s ⟨l.path, everyDomain⟩).1 = .ok contents

/-- What is collected is made of the contents of the answer, and its series of the entities. -/
def IsStable (l : EntityRoutine) : Prop :=
  ∃ samples : l.Contents → List Sample,
    (∀ {σ : Type} (device : Device σ) (ctx : ScrapeContext) (s : σ),
      ((l.routine.collect ctx).run.run device s).value =
        (Collection.readAnswer l.decoder l.path (device.answer s ⟨l.path, everyDomain⟩).1).map
          samples) ∧
    ∀ a b, l.entities a = l.entities b →
      (samples a).map Sample.identity = (samples b).map Sample.identity

/-- A routine is stable if it makes a `block` of samples for each entity, whose series come from the
values of its labels. -/
theorem isStable_of_labels {l : EntityRoutine} {β : Type} (samples : l.Contents → List Sample)
    (listed : l.Contents → List (List String × β)) (block : List String → β → List Sample)
    (hcollect : ∀ {σ : Type} (device : Device σ) (ctx : ScrapeContext) (s : σ),
      ((l.routine.collect ctx).run.run device s).value =
        (Collection.readAnswer l.decoder l.path (device.answer s ⟨l.path, everyDomain⟩).1).map
          samples)
    (hblock : ∀ labels x y,
      (block labels x).map Sample.identity = (block labels y).map Sample.identity)
    (hsamples : ∀ a, samples a = (listed a).flatMap fun p => block p.1 p.2)
    (hentities : ∀ a, l.entities a = (listed a).map (·.1)) : l.IsStable := by
  refine ⟨samples, hcollect, fun a b h => ?_⟩
  rw [hentities, hentities] at h
  rw [hsamples, hsamples]
  -- Entities are compared by their labels only, so two with the same labels may differ otherwise.
  refine map_flatMap_eq_of_keys (fun p q hpq => ?_) h
  rw [hpq]
  exact hblock q.1 p.2 q.2

end EntityRoutine

namespace LinkFamilies

/-- The routine of one kind of link; a link is known by its virtual domain, the name of its monitor
and that of its interface. -/
abbrev entityRoutine (f : LinkFamilies) (name path : String) : EntityRoutine where
  routine := f.routine name path
  path
  Contents := List (Envelope Links)
  decoder := Envelope.listDecoder (Decoder.dict (Decoder.dict (Decoder.record LinkHealth.record)))
  entities envelopes := envelopes.flatMap fun e =>
    e.results.entries.flatMap fun (monitor, links) =>
      links.entries.map fun (interface, _) => [e.vdom, monitor, interface]

/-- The series of a link depend on its labels alone, since what was not measured is reported too. -/
theorem identity_samples (f : LinkFamilies) (labels : List String) (s t : LinkHealth) :
    (f.samples labels s).map Sample.identity = (f.samples labels t).map Sample.identity := by
  have hall : HasAllValues f.measurements := by
    simp [HasAllValues, measurements, Family.of]
  rw [samples, samples, List.map_append, List.map_append,
    identity_samplePerState f.status labels f.states s.status t.status,
    identity_measurements hall labels s t]

theorem isStable_entityRoutine (f : LinkFamilies) (name path : String) :
    (f.entityRoutine name path).IsStable := by
  refine EntityRoutine.isStable_of_labels f.samplesOfAll
    (fun envelopes => envelopes.flatMap fun e =>
      e.results.entries.flatMap fun (monitor, links) =>
        links.entries.map fun (interface, s) => ([e.vdom, monitor, interface], s))
    f.samples (fun device ctx s => Routine.value_collect_ofEndpoint device ctx s _ _ _ _ _ _)
    f.identity_samples (fun envelopes => ?_) (fun envelopes => ?_)
  · simp only [samplesOfAll, List.flatMap_assoc, List.flatMap_map]
  · simp only [List.map_flatMap, List.map_map, Function.comp_def]

end LinkFamilies

namespace IpsecTunnel

/-- A selector is known by its virtual domain, the name of its tunnel, its own name and the gateway
of the tunnel. -/
abbrev entityRoutine : EntityRoutine where
  routine := routine
  path := "monitor/vpn/ipsec"
  Contents := List (Envelope (List IpsecTunnel))
  decoder := Envelope.listDecoder (Decoder.list (Decoder.record record))
  entities envelopes := envelopes.flatMap fun e =>
    e.results.flatMap fun t => t.selectors.map fun s => [e.vdom, t.name, s.name, t.gateway]

/-- The series of a selector depend on its labels alone. -/
theorem identity_selectorSamples (labels : List String) (s t : TunnelSelector) :
    (selectorSamples labels s).map Sample.identity =
      (selectorSamples labels t).map Sample.identity := by
  have hall : HasAllValues measurements := by simp [HasAllValues, measurements, Family.of]
  rw [selectorSamples, selectorSamples, List.map_append, List.map_append,
    identity_samplePerState statusFamily labels states s.status t.status,
    identity_measurements hall labels s t]

theorem isStable_entityRoutine : entityRoutine.IsStable := by
  refine EntityRoutine.isStable_of_labels samplesOfAll
    (fun envelopes => envelopes.flatMap fun e =>
      e.results.flatMap fun t => t.selectors.map fun s => ([e.vdom, t.name, s.name, t.gateway], s))
    selectorSamples (fun device ctx s => Routine.value_collect_ofEndpoint device ctx s _ _ _ _ _ _)
    identity_selectorSamples (fun envelopes => ?_) (fun envelopes => ?_)
  · simp only [samplesOfAll, Envelope.perResult, samples, List.flatMap_assoc, List.flatMap_map]
  · simp only [List.map_flatMap, List.map_map, Function.comp_def]

end IpsecTunnel

namespace ManagedSwitch

/-- A port is known by its virtual domain, the name and the serial number of its switch, and its
own name. -/
abbrev entityRoutine : EntityRoutine where
  routine := routine
  path := "monitor/switch-controller/managed-switch"
  Contents := List (Envelope (List ManagedSwitch))
  decoder := Envelope.listDecoder (Decoder.list (Decoder.record record))
  entities envelopes := envelopes.flatMap fun e =>
    e.results.flatMap fun s =>
      s.counters.entries.map fun (port, _) => [e.vdom, s.name, s.serial, port]

/-- The series of a port depend on its labels alone, whether its state is listed or not. -/
theorem identity_portSamples (labels : List String) (p q : PortCounters × Option PortConfig) :
    (portSamples labels p.1 p.2).map Sample.identity =
      (portSamples labels q.1 q.2).map Sample.identity := by
  have hall : HasAllValues PortCounters.measurements := by
    simp [HasAllValues, PortCounters.measurements, Family.of]
  rw [portSamples, portSamples, List.map_append, List.map_append,
    identity_samplePerState portStatus labels portStates ((p.2.map (·.status)).getD "")
      ((q.2.map (·.status)).getD ""),
    identity_measurements hall labels p.1 q.1]

theorem isStable_entityRoutine : entityRoutine.IsStable := by
  refine EntityRoutine.isStable_of_labels (fun envelopes => (samplesOfAll envelopes).value)
    (fun envelopes => envelopes.flatMap fun e => e.results.flatMap fun s =>
      s.counters.entries.map fun (port, counters) =>
        ([e.vdom, s.name, s.serial, port],
          (counters, (CorrelationIndex.build (·.interface) s.ports).value.find? port)))
    (fun labels (p : PortCounters × Option PortConfig) => portSamples labels p.1 p.2)
    (fun device ctx s => Routine.value_collect_ofEndpointLogged device ctx s _ _ _ _ _ samplesOfAll)
    identity_portSamples (fun envelopes => ?_) (fun envelopes => ?_)
  · simp only [samplesOfAll, Logged.value_flatMap, Envelope.perResult, samples, Logged.value_bind,
      Logged.value_pure, correlate, List.flatMap_assoc, List.flatMap_map]
  · simp only [List.map_flatMap, List.map_map, Function.comp_def]

end ManagedSwitch

namespace OspfNeighbor

/-- A neighbour is known by its virtual domain, its address and the identifier of its router. -/
abbrev entityRoutine : EntityRoutine where
  routine := routine
  path := "monitor/router/ospf/neighbors"
  Contents := List (Envelope (List OspfNeighbor))
  decoder := Envelope.listDecoder (Decoder.list (Decoder.record record))
  entities envelopes := envelopes.flatMap fun e =>
    e.results.map fun n => [e.vdom, n.neighborIp, n.routerId]

theorem isStable_entityRoutine : entityRoutine.IsStable := by
  refine EntityRoutine.isStable_of_labels samplesOfAll
    (fun envelopes => envelopes.flatMap fun e =>
      e.results.map fun n => ([e.vdom, n.neighborIp, n.routerId], n))
    (fun labels n => stateFamily.samplePerState labels n.state states ++
      [priorityFamily.sample n.priority labels])
    (fun device ctx s => Routine.value_collect_ofEndpoint device ctx s _ _ _ _ _ _)
    (fun labels m n => ?_) (fun envelopes => ?_) (fun envelopes => ?_)
  · rw [List.map_append, List.map_append,
      identity_samplePerState stateFamily labels states m.state n.state]
    rfl
  · simp only [samplesOfAll, Envelope.perResult, samples, List.flatMap_assoc, List.flatMap_map]
  · simp only [List.map_flatMap, List.map_map, Function.comp_def]

end OspfNeighbor

namespace BgpNeighbor

/-- A neighbour is known by its virtual domain and its address. -/
abbrev entityRoutine : EntityRoutine where
  routine := ipv4StateRoutine
  path := ipv4Path
  Contents := List (Envelope (List BgpNeighbor))
  decoder := decoder
  entities envelopes := envelopes.flatMap fun e => e.results.map fun n => [e.vdom, n.neighborIp]

theorem isStable_entityRoutine : entityRoutine.IsStable := by
  refine EntityRoutine.isStable_of_labels stateSamplesOfAll
    (fun envelopes => envelopes.flatMap fun e =>
      e.results.map fun n => ([e.vdom, n.neighborIp], n))
    (fun labels n => ipv4State.samplePerState labels n.state states ++
      [ipv4AdminUp.sample (indicator n.isEnabled) labels])
    (fun device ctx s => Routine.value_collect_ofEndpoint device ctx s _ _ _ _ _ _)
    (fun labels m n => ?_) (fun envelopes => ?_) (fun envelopes => ?_)
  -- Neither the state nor the administrative setting is part of a series.
  · rw [List.map_append, List.map_append,
      identity_samplePerState ipv4State labels states m.state n.state]
    rfl
  · simp only [stateSamplesOfAll, Envelope.perResult, stateSamples, List.flatMap_assoc,
      List.flatMap_map]
  · simp only [List.map_flatMap, List.map_map, Function.comp_def]

end BgpNeighbor

/-- The routines that report the same series as long as the same entities are listed. -/
def entityRoutines : List EntityRoutine := [
  LinkMonitor.families.entityRoutine "system_link_monitor" "monitor/system/link-monitor",
  WanHealth.families.entityRoutine "virtual_wan_health" "monitor/virtual-wan/health-check",
  IpsecTunnel.entityRoutine, ManagedSwitch.entityRoutine, OspfNeighbor.entityRoutine,
  BgpNeighbor.entityRoutine]

/-- All `entityRoutines` are stable. -/
theorem isStable_of_mem_entityRoutines : ∀ l ∈ entityRoutines, l.IsStable := by
  simp only [entityRoutines, List.forall_mem_cons, List.not_mem_nil, false_implies, implies_true,
    and_true]
  exact ⟨LinkFamilies.isStable_entityRoutine _ _ _, LinkFamilies.isStable_entityRoutine _ _ _,
    IpsecTunnel.isStable_entityRoutine, ManagedSwitch.isStable_entityRoutine,
    OspfNeighbor.isStable_entityRoutine, BgpNeighbor.isStable_entityRoutine⟩

/-- The series that one of `entityRoutines` reports depend on which entities are listed, and on
nothing else: neither on their states nor on what was measured of them.  What a routine about links
reports is told by the values that its answer holds for the links, and a measurement that is absent
or null there is reported in one sample, as NaN in the unit of its family. -/
theorem series_depend_on_entities {σ τ : Type} {l : EntityRoutine} (hl : l ∈ entityRoutines)
    (device : Device σ) (other : Device τ) (ctx ctx' : ScrapeContext) (s : σ) (t : τ)
    {found found' : List Sample}
    (h : ((l.routine.collect ctx).run.run device s).value = .ok found)
    (h' : ((l.routine.collect ctx').run.run other t).value = .ok found') :
    (∃ contents contents', l.Reads device s contents ∧ l.Reads other t contents' ∧
      (l.entities contents = l.entities contents' →
        found.map (fun x => (x.name, x.kind, x.labels)) =
          found'.map fun x => (x.name, x.kind, x.labels))) ∧
    ∀ f ∈ [LinkMonitor.families, WanHealth.families],
      (∀ name path ctx s links,
        (((f.routine name path).collect ctx).run.run device s).value = .ok links →
        ∃ v answered, (device.answer s ⟨path, everyDomain⟩).1 = .ok v ∧
          Envelope.listDecoder (Decoder.dict (Decoder.dict Decoder.any)) v = .ok answered ∧
          links = f.reportedOfAll answered) ∧
      ∀ labels v, ∀ m ∈ f.measured,
        valueAt? m.key (LinkHealth.record.entriesOf v) ∈ [none, some .null] →
        (f.reported labels v).filter (fun x => x.name = m.family.name) =
          [m.family.sample (m.convert notMeasured) labels] ∧
        (m.convert notMeasured).isNaN = true := by
  refine ⟨?_, fun f hf => ⟨fun name path ctx s links hlinks => ?_, ?_⟩⟩
  · obtain ⟨samples, hcollect, hstable⟩ := isStable_of_mem_entityRoutines l hl
    rw [hcollect] at h h'
    obtain ⟨contents, hcontents, rfl⟩ := Except.map_eq_ok_iff.1 h
    obtain ⟨contents', hcontents', rfl⟩ := Except.map_eq_ok_iff.1 h'
    exact ⟨contents, contents', hcontents, hcontents', hstable contents contents'⟩
  · exact f.value_collect_eq_ok name path hlinks
  · intro labels v m hm hmissing
    have hnames : ∀ f ∈ [LinkMonitor.families, WanHealth.families], f.names.Nodup := by decide
    have hsample := LinkFamilies.filter_name_reported (hnames f hf) hm labels v
    rw [Json.measuredAt_of_missing hmissing] at hsample
    exact ⟨hsample, LinkFamilies.isNaN_convert hm⟩

/-- A link with measurements, and the same link when it is down, with one that is null and without
the others. -/
theorem series_depend_on_entities_down :
    let answering (link : Json) : Device Unit := .ofFunction fun _ => .ok (.arr [.obj [
      ("results", .obj [("ping", .obj [("wan1", link)])]), ("vdom", .str "root")]])
    let up := answering (.obj [("status", .str "up"), ("latency", .int 250), ("session", .int 4)])
    let down := answering (.obj [("status", .str "down"), ("latency", .null)])
    let collected (device : Device Unit) :=
      ((LinkMonitor.routine.collect ⟨none, none, {}⟩).run.run device ()).value
    ∃ found found', collected up = .ok found ∧ collected down = .ok found' ∧
      found.map (fun x => x.value.isNaN) = [false, false, false, false, false, true, true, true,
        true, false, true, true, true] ∧
      found'.map (fun x => x.value.isNaN) = List.replicate 4 false ++ List.replicate 9 true ∧
      found.map (fun x => (x.name, x.kind, x.labels)) =
        found'.map fun x => (x.name, x.kind, x.labels) := by
  intro answering up down collected
  have hup : (collected up).toOption.map (List.map fun x => x.value.isNaN) = some [false, false,
      false, false, false, true, true, true, true, false, true, true, true] := by decide +kernel
  have hdown : (collected down).toOption.map (List.map fun x => x.value.isNaN) =
      some (List.replicate 4 false ++ List.replicate 9 true) := by decide +kernel
  obtain ⟨found, hfound, hvalues⟩ := Except.map_toOption_eq_some_iff.1 hup
  obtain ⟨found', hfound', hvalues'⟩ := Except.map_toOption_eq_some_iff.1 hdown
  obtain ⟨⟨contents, contents', hreads, hreads', hseries⟩, -⟩ :=
    series_depend_on_entities List.mem_cons_self up down ⟨none, none, {}⟩ ⟨none, none, {}⟩ () ()
      hfound hfound'
  refine ⟨found, found', hfound, hfound', hvalues, hvalues', hseries ?_⟩
  -- Both answers list the one link.
  let l := LinkMonitor.families.entityRoutine "system_link_monitor" "monitor/system/link-monitor"
  let listed (device : Device Unit) : Option (List (List String)) :=
    (Collection.readAnswer l.decoder l.path
      (device.answer () ⟨l.path, everyDomain⟩).1).toOption.map l.entities
  have hlisted : listed up = some [["root", "ping", "wan1"]] := by decide +kernel
  have hlisted' : listed down = some [["root", "ping", "wan1"]] := by decide +kernel
  have hcontents : listed up = some (l.entities contents) :=
    congrArg (fun answer => answer.toOption.map l.entities) hreads
  have hcontents' : listed down = some (l.entities contents') :=
    congrArg (fun answer => answer.toOption.map l.entities) hreads'
  rw [hlisted, ← hlisted', hcontents'] at hcontents
  exact (Option.some.inj hcontents).symm

end FirewallProbe
