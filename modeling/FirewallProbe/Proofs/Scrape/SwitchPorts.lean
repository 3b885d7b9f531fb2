import FirewallProbe.Proofs.Collected
import FirewallProbe.Proofs.Correlation
import FirewallProbe.Proofs.Schema.Contents

/-!
# The ports of a switch

A switch lists its ports with their states, and apart from that it has counters by port.  What is
reported about a port is told by the value of its own switch: one entry of the counters, and the
last of the listed ports that has its name.

## Key results

- `ManagedSwitch.filter_reportedPort`: one indicator tells the state of a port
- `ManagedSwitch.effectiveState_lastWith?`: the state that is reported for a port
- `ManagedSwitch.samples_eq_reported`: the samples of a switch, read off its value
- `ManagedSwitch.ports_joined_per_switch`: all samples of the routine
-/

namespace FirewallProbe

/-! ## What is read of a switch -/

namespace PortConfig

theorem names_nodup : record.names.Nodup := by decide

/-- The name of a listed port is the text at its key. -/
theorem interface_isShownBy : record.IsShownBy "interface" Json.textOr (·.interface) :=
  Record.isShownBy_text names_nodup rfl (fun _ _ => rfl) (by simp [record])

/-- The status of a listed port is the text at its key. -/
theorem status_isShownBy : record.IsShownBy "status" Json.textOr (·.status) :=
  Record.isShownBy_text names_nodup rfl (fun _ _ => rfl) (by simp [record])

end PortConfig

namespace PortCounters

/-- The counters of a port, each with the key under which it is answered. -/
def reported : List (ReportedNumber PortCounters) := [
  ⟨"tx_bytes", (·.txBytes), id, txBytesTotal⟩,
  ⟨"rx_bytes", (·.rxBytes), id, rxBytesTotal⟩,
  ⟨"tx_packets", (·.txPackets), id, txPacketsTotal⟩,
  ⟨"rx_packets", (·.rxPackets), id, rxPacketsTotal⟩,
  ⟨"tx_errors", (·.txErrors), id, txErrorsTotal⟩,
  ⟨"rx_errors", (·.rxErrors), id, rxErrorsTotal⟩,
  ⟨"crc_alignments", (·.crcAlignments), id, crcAlignmentsTotal⟩]

/-- The counters of a port are those that are `reported`. -/
theorem areShownBy_reported : ReportedNumber.AreShownBy reported record labelNames where
  names := by decide
  shown n hn := by
    simp only [reported, List.mem_cons, List.not_mem_nil, or_false] at hn
    rcases hn with rfl | rfl | rfl | rfl | rfl | rfl | rfl
    all_goals
      exact Record.isShownBy_number (by decide) rfl (fun _ _ => rfl) (by simp [record])
  blank := by simp [reported, record]
  labels := by
    simp [reported, txBytesTotal, rxBytesTotal, txPacketsTotal, rxPacketsTotal, txErrorsTotal,
      rxErrorsTotal, crcAlignmentsTotal, Family.counter]

end PortCounters

namespace ManagedSwitch

open Text (bytesOf)

theorem names_nodup : record.names.Nodup := by decide

theorem name_isShownBy : record.IsShownBy "name" Json.textOr (·.name) :=
  Record.isShownBy_text names_nodup rfl (fun _ _ => rfl) (by simp [record])

theorem serial_isShownBy : record.IsShownBy "serial" Json.textOr (·.serial) :=
  Record.isShownBy_text names_nodup rfl (fun _ _ => rfl) (by simp [record])

/-- The listed ports of a switch stand at their key. -/
theorem ports_isShownBy : record.IsShownBy "ports"
    (Decoder.list (Decoder.record PortConfig.record)) fun s => .ok s.ports :=
  Record.isShownBy_read names_nodup rfl (fun _ _ => rfl) (by simp [record])

/-- The counters of a switch stand at their key, by port. -/
theorem counters_isShownBy : record.IsShownBy "port_stats"
    (Decoder.dict (Decoder.record PortCounters.record)) fun s => .ok s.counters :=
  Record.isShownBy_read names_nodup rfl (fun _ _ => rfl) (by simp [record])

/-! ## What is reported -/

/-- The ports that a switch lists, each with its state. -/
def listedPorts (switch : Json) : List (String × String) :=
  (Json.itemsAt "ports" (record.entriesOf switch)).map fun port =>
    let entries := PortConfig.record.entriesOf port
    (Json.textAt "interface" entries, Json.textAt "status" entries)

/-- The counters of a switch, by port. -/
def countersByPort (switch : Json) : Dict Json :=
  Json.membersAt "port_stats" (record.entriesOf switch)

/-- The state of the last of some ports with a name, if it is one of the two that are known. -/
def stateAmong (ports : List (String × String)) (name : String) : String :=
  match (ports.filter fun p => p.1 = name).getLast? with
  | some p => if p.2 = "up" ∨ p.2 = "down" then p.2 else "unknown"
  | none => "unknown"

/-- The labels of a port. -/
def portLabels (vdom : String) (switch : Json) (port : String) : List (String × String) :=
  let entries := record.entriesOf switch
  [("vdom", vdom), ("switch_name", Json.textAt "name" entries),
    ("serial", Json.textAt "serial" entries), ("port", port)]

/-- What is reported about a port: its state as three indicators, and its counters. -/
def reportedPort (vdom : String) (switch : Json) (port : String) (counters : Json) : List Sample :=
  let labels := portLabels vdom switch port
  portStatus.labelledStates labels ["up", "down", "unknown"]
      (stateAmong (listedPorts switch) port) ++
    ReportedNumber.samples PortCounters.reported labels (PortCounters.record.entriesOf counters)

/-- What is reported about a switch, read off its value. -/
def reported (vdom : String) (switch : Json) : List Sample :=
  (countersByPort switch).entries.flatMap fun (port, counters) =>
    reportedPort vdom switch port counters

/-- `stateAmong` is one of the three states. -/
theorem stateAmong_mem (ports : List (String × String)) (name : String) :
    stateAmong ports name ∈ ["up", "down", "unknown"] := by
  unfold stateAmong
  split
  next p _ =>
    split
    next h => rcases h with h | h <;> simp [h]
    next => simp
  next => simp

/-- Of the samples of a port, one says in which state it is. -/
theorem filter_reportedPort (vdom : String) (switch : Json) (port : String) (counters : Json) :
    (reportedPort vdom switch port counters).filter
        (fun x => x.name = portStatus.name ∧ x.value = 1.0) =
      [portStatus.labelled 1.0
        (portLabels vdom switch port ++ [("state", stateAmong (listedPorts switch) port)])] := by
  -- The counters have names of their own, so what is left are indicators.
  have hcounters : ∀ x ∈ ReportedNumber.samples PortCounters.reported
      (portLabels vdom switch port) (PortCounters.record.entriesOf counters),
      x.name ≠ portStatus.name := by
    have hnames : ∀ n ∈ PortCounters.reported, n.family.name ≠ portStatus.name := by decide
    intro x hx
    obtain ⟨n, hn, rfl⟩ := List.mem_map.1 hx
    exact hnames n hn
  have hnone : (ReportedNumber.samples PortCounters.reported (portLabels vdom switch port)
      (PortCounters.record.entriesOf counters)).filter
        (fun x => x.name = portStatus.name ∧ x.value = 1.0) = [] :=
    List.filter_eq_nil_iff.2 fun x hx => by simp [hcounters x hx]
  rw [reportedPort, List.filter_append, hnone, List.append_nil,
    ← portStatus.filter_labelledStates _ (by decide) (stateAmong_mem _ _)]
  refine List.filter_congr fun x hx => ?_
  obtain ⟨_, -, rfl⟩ := List.mem_map.1 hx
  simp [Family.labelled]

/-- The state that is reported for a port is that of the last of the `ports` with its name. -/
theorem effectiveState_lastWith? (ports : List PortConfig) (name : String) :
    effectiveState (((lastWith? (·.interface) ports name).map (·.status)).getD "") portStates =
      stateAmong (ports.map fun p => (p.interface, p.status)) name := by
  rw [stateAmong, lastWith?, List.filter_map, List.getLast?_map]
  simp only [Function.comp_def]
  cases (ports.filter fun p => p.interface = name).getLast? with
  | none => rfl
  | some p => simp [effectiveState, portStates, unknownState]

section

variable {v : Json} {switch : ManagedSwitch}

/-- `portLabels` are those of the switch that was read. -/
theorem portLabels_eq_zip (vdom port : String) (hread : Decoder.record record v = .ok switch) :
    portLabels vdom v port =
      PortCounters.labelNames.zip [vdom, switch.name, switch.serial, port] := by
  rw [portLabels, ← name_isShownBy.textOf names_nodup rfl hread,
    ← serial_isShownBy.textOf names_nodup rfl hread]
  rfl

/-- `listedPorts` are those of the switch that was read. -/
theorem listedPorts_eq_map (hread : Decoder.record record v = .ok switch) :
    listedPorts v = switch.ports.map fun p => (p.interface, p.status) := by
  have hitems := ports_isShownBy.listAt names_nodup rfl hread
  rw [listedPorts, ← List.forall₂_eq_eq_eq, List.forall₂_map_left_iff, List.forall₂_map_right_iff]
  refine hitems.imp fun w p hp => Prod.ext ?_ ?_
  · exact (PortConfig.interface_isShownBy.textOf PortConfig.names_nodup rfl hp).symm
  · exact (PortConfig.status_isShownBy.textOf PortConfig.names_nodup rfl hp).symm

/-- `portSamples` are those that the value of the switch tells. -/
theorem portSamples_eq_reportedPort (vdom port : String)
    (hread : Decoder.record record v = .ok switch) {w : Json} {counters : PortCounters}
    (hcounters : Decoder.record PortCounters.record w = .ok counters) :
    portSamples [vdom, switch.name, switch.serial, port] counters
      (lastWith? (·.interface) switch.ports port) = reportedPort vdom v port w := by
  have hlabels := portLabels_eq_zip vdom port hread
  have hsound : StateFamily.IsSound ⟨portStatus, portStates⟩ := by decide +kernel
  have hlength : [vdom, switch.name, switch.serial, port].length + 1 =
      portStatus.labels.length := rfl
  -- An empty status, for a port that is not listed, counts as unknown like any other.
  have hstates := hsound.samplePerState_eq_labelledStates hlength
    (((lastWith? (·.interface) switch.ports port).map (·.status)).getD "")
  rw [effectiveState_lastWith?, ← listedPorts_eq_map hread] at hstates
  have hnumbers := PortCounters.areShownBy_reported.samples_eq hcounters
    [vdom, switch.name, switch.serial, port]
  rw [← hlabels] at hnumbers
  rw [reportedPort, hlabels, portSamples]
  exact congrArg₂ _ hstates (hlabels ▸ hnumbers)

/-- `samples` of a switch are those that its value tells. -/
theorem samples_eq_reported (vdom : String) (hread : Decoder.record record v = .ok switch) :
    (samples vdom switch).value = reported vdom v := by
  have hvalue : (samples vdom switch).value = switch.counters.entries.flatMap fun p =>
      portSamples [vdom, switch.name, switch.serial, p.1] p.2
        (lastWith? (·.interface) switch.ports p.1) := by
    simp only [samples, Logged.value_bind, Logged.value_pure, correlate, List.flatMap_map,
      CorrelationIndex.find?_build]
  -- The ports are those that have counters, in the order of the dictionary.
  rw [hvalue, reported]
  refine (flatMap_eq_of_forall₂ (counters_isShownBy.dictAt names_nodup rfl hread)
    fun w p hwp => ?_).symm
  obtain ⟨port, w⟩ := w
  obtain ⟨_, counters⟩ := p
  obtain ⟨rfl, hcounters⟩ := hwp
  exact (portSamples_eq_reportedPort vdom port hread hcounters).symm

end

/-! ## The routine -/

/-- `samplesOfAll` are those that the values of the switches tell. -/
theorem samplesOfAll_eq_reported {v : Json} {envelopes : List (Envelope (List ManagedSwitch))}
    (h : Envelope.listDecoder (Decoder.list (Decoder.record record)) v = .ok envelopes) :
    ∃ answered, Envelope.listDecoder (Decoder.list Decoder.any) v = .ok answered ∧
      (samplesOfAll envelopes).value =
        answered.flatMap fun e => e.results.flatMap fun switch => reported e.vdom switch := by
  obtain ⟨answered, hanswered, hrel⟩ := refines_records record v envelopes h
  have hvalue : (samplesOfAll envelopes).value = envelopes.flatMap fun e =>
      e.results.flatMap fun switch => (samples e.vdom switch).value := by
    simp only [samplesOfAll, Logged.value_flatMap, Envelope.perResult, List.flatMap_assoc,
      List.flatMap_map]
  -- The switches and their values stand in the same places.
  refine ⟨answered, hanswered, hvalue.trans (flatMap_eq_of_forall₂ hrel fun e e' he => ?_)⟩
  obtain ⟨hvdom, hresults⟩ := he
  rw [hvdom]
  exact flatMap_eq_of_forall₂ hresults fun switch w hw => samples_eq_reported e'.vdom hw

/-- What is collected about switches is `reported` switch by switch: for each port that has
counters, by the bytes of its name, three indicators and seven counters.  One of the indicators is
at one, for the state that the same switch lists last for that port. -/
theorem ports_joined_per_switch {σ : Type} (device : Device σ) (ctx : ScrapeContext) (s : σ)
    {found : List Sample}
    (h : ((routine.collect ctx).run.run device s).value = .ok found) :
    (∃ v answered, (device.answer s
        ⟨"monitor/switch-controller/managed-switch", everyDomain⟩).1 = .ok v ∧
      Envelope.listDecoder (Decoder.list Decoder.any) v = .ok answered ∧
      found = answered.flatMap fun e => e.results.flatMap fun switch => reported e.vdom switch) ∧
    ∀ (vdom : String) (switch : Json),
      ((countersByPort switch).entries.map (·.1)).Pairwise (fun a b => bytesOf a < bytesOf b) ∧
      ∀ (port : String) (counters : Json),
        (reportedPort vdom switch port counters).filter
            (fun x => x.name = "fortigate_managed_switch_port_status" ∧ x.value = 1.0) =
          [portStatus.labelled 1.0 (portLabels vdom switch port ++
            [("state", stateAmong (listedPorts switch) port)])] := by
  refine ⟨?_, fun vdom switch => ⟨Dict.pairwise_bytesOf_keys _, filter_reportedPort vdom switch⟩⟩
  rw [routine, Routine.value_collect_ofEndpointLogged, Except.map_eq_ok_iff] at h
  obtain ⟨envelopes, hread, rfl⟩ := h
  obtain ⟨v, hanswer, hswitches⟩ := Collection.readAnswer_eq_ok_iff.1 hread
  obtain ⟨answered, hanswered, hfound⟩ := samplesOfAll_eq_reported hswitches
  exact ⟨v, answered, hanswer, hanswered, hfound⟩

/-- Two switches with a port of one name: the first lists it twice and counts a port that it does
not list, the second lists a port that it does not count. -/
theorem ports_joined_per_switch_equal_names :
    let port (name status : String) : Json :=
      .obj [("interface", .str name), ("status", .str status)]
    let switch (name : String) (ports : List Json) (counters : List (String × Json)) : Json :=
      .obj [("name", .str name), ("ports", .arr ports), ("port_stats", .obj counters)]
    let device := Device.ofFunction fun _ => .ok (.arr [.obj [("vdom", .str "root"),
      ("results", .arr [
        switch "a" [port "p1" "up", port "p1" "down"]
          [("p2", .obj []), ("p1", .obj [("tx_bytes", .int 7)])],
        switch "b" [port "p1" "testing", port "p2" "up"] [("p1", .obj [])]])]])
    let ctx : ScrapeContext := ⟨some ⟨7, 0⟩, none, {}⟩
    let run := (routine.collect ctx).run.run device ()
    ∃ found v answered, run.value = .ok found ∧
      (found.filter fun x => x.value = 1.0 ∨ x.value = 7.0).map (fun x => x.labels.map (·.2)) = [
        ["root", "a", "", "p1", "down"], ["root", "a", "", "p1"],
        ["root", "a", "", "p2", "unknown"], ["root", "b", "", "p1", "unknown"]] ∧
      (device.answer () ⟨"monitor/switch-controller/managed-switch", everyDomain⟩).1 = .ok v ∧
      Envelope.listDecoder (Decoder.list Decoder.any) v = .ok answered ∧
      found = answered.flatMap fun e => e.results.flatMap fun switch => reported e.vdom switch := by
  intro port switch device ctx run
  have hshown : run.value.toOption.map (fun found =>
      (found.filter fun x => x.value = 1.0 ∨ x.value = 7.0).map fun x => x.labels.map (·.2)) =
      some [["root", "a", "", "p1", "down"], ["root", "a", "", "p1"],
        ["root", "a", "", "p2", "unknown"], ["root", "b", "", "p1", "unknown"]] := by
    decide +kernel
  obtain ⟨found, hfound, hlabels⟩ := Except.map_toOption_eq_some_iff.1 hshown
  obtain ⟨⟨v, answered, hanswer, hanswered, heq⟩, -⟩ :=
    ports_joined_per_switch device ctx () hfound
  exact ⟨found, v, answered, hfound, hlabels, hanswer, hanswered, heq⟩

end ManagedSwitch
end FirewallProbe
