import FirewallProbe.Proofs.Collected
import FirewallProbe.Proofs.Exposition.States
import FirewallProbe.Proofs.Scrape.CallTrace

/-!
# The state of a neighbour, as a number and as indicators

Two routines list the same neighbours.  One reports the number of a neighbour's state, the other an
indicator for each state, and each looks the text of the state up in its own way.  They are reported
for the same neighbours in the same order, and the number is that of the indicator that is at one.

## Key results

- `Scrape.mem_routines_reportOf_iff`: what a report says of a routine
- `stateNumber_eq_iff`: the number of a state and the indicator that is reported for it
- `tellSame_samples`: the samples of one neighbour
- `outcomesAgree_turn`: both routines, on any device that gives both the same answer
- `neighbor_routines_agree`: both routines in scrapes of a device
-/

namespace FirewallProbe

/-- What the end of a body stands for. -/
def RoutineOutcome.ofResult : Except ProbeError (List Sample) → RoutineOutcome
  | .ok samples => .collected samples
  | .error cause => .failed cause

namespace Scrape

variable {σ : Type}

/-- A routine that is not skipped ends as its body does. -/
theorem outcome_turn (device : Device σ) {ctx : ScrapeContext} {r : Routine} {s : σ}
    (h : (turn device ctx r s).outcome ≠ .skipped) :
    (turn device ctx r s).outcome = .ofResult ((r.collect ctx).run.run device s).value := by
  cases hsupported : r.isSupported ctx.firmware with
  | false => exact absurd (by simp [turn, Turn.outcome, hsupported]) h
  | true =>
    simp only [turn, Turn.outcome, hsupported, if_true]
    cases ((r.collect ctx).run.run device s).value <;> rfl

/-- `reportOf` has the outcome of its `turn` for each routine that the filter allows. -/
theorem mem_routines_reportOf_iff {f : Endpoint → Answer} {options : ProbeOptions} {r : Routine}
    (hr : r ∈ routineTable) {outcome : RoutineOutcome} :
    ⟨r.name, outcome⟩ ∈ (reportOf f options).routines ↔
      options.routines.allows r.name = true ∧
        outcome = (turn (.ofFunction f) (contextOf f options) r ()).outcome := by
  rw [reportOf, routines_scrape, turnsOf_ofFunction, List.map_map, List.mem_map]
  constructor
  · rintro ⟨r', hr', hentry⟩
    obtain ⟨hname, houtcome⟩ := RoutineReport.mk.inj hentry
    obtain ⟨htable, hallowed⟩ := List.mem_filter.1 hr'
    obtain rfl : r' = r := List.inj_on_of_nodup_map nodup_names_routineTable htable hr hname
    exact ⟨hallowed, houtcome.symm⟩
  · rintro ⟨hallowed, rfl⟩
    exact ⟨r, List.mem_filter.2 ⟨hr, hallowed⟩, rfl⟩

end Scrape

namespace BgpNeighbor

/-! ## States and numbers -/

/-- The states with their numbers; any other text counts as unknown, with number zero. -/
def numberedStates : List (Nat × String) := [
  (1, "Idle"), (2, "Connect"), (3, "Active"), (4, "OpenSent"), (5, "OpenConfirm"),
  (6, "Established"), (0, "unknown")]

/-- `stateNumber` of a text that is no state is zero. -/
theorem stateNumber_of_not_mem {state : String} (h : state ∉ states) : stateNumber state = 0 := by
  rw [stateNumber, List.idxOf?_eq_none_iff.2 h]
  rfl

/-- `stateNumber` is the number of a state exactly if `effectiveState` is that state. -/
theorem stateNumber_eq_iff {p : Nat × String} (hp : p ∈ numberedStates) (state : String) :
    stateNumber state = p.1 ↔ effectiveState state states = p.2 := by
  -- There are six states to look at; any other text is unknown to both.
  by_cases hstate : state ∈ states
  · have hall : ∀ state ∈ states, ∀ p ∈ numberedStates,
        stateNumber state = p.1 ↔ effectiveState state states = p.2 := by decide
    exact hall state hstate p hp
  · have hall : ∀ p ∈ numberedStates, 0 = p.1 ↔ unknownState = p.2 := by decide
    rw [stateNumber_of_not_mem hstate, effectiveState, if_neg hstate]
    exact hall p hp

/-- Different states have different values, also as doubles. -/
theorem ofInt_stateNumber_eq_iff {p : Nat × String} (hp : p ∈ numberedStates) (state : String) :
    Binary64.ofInt (stateNumber state) = Binary64.ofInt p.1 ↔ stateNumber state = p.1 := by
  have hbound : stateNumber state ∈ numberedStates.map (·.1) := by
    by_cases hstate : state ∈ states
    · have hall : ∀ state ∈ states, stateNumber state ∈ numberedStates.map (·.1) := by decide
      exact hall state hstate
    · rw [stateNumber_of_not_mem hstate]
      decide
  have hinj : ∀ n ∈ numberedStates.map (·.1), ∀ m ∈ numberedStates.map (·.1),
      Binary64.ofInt (n : Nat) = Binary64.ofInt (m : Nat) → n = m := by decide +kernel
  refine ⟨hinj _ hbound _ (List.mem_map_of_mem hp), fun h => by rw [h]⟩

/-! ## The samples of a neighbour -/

/-- The indicators of a neighbour, and the sample that tells whether it is enabled. -/
structure StateGroup where
  indicators : List Sample
  admin : Sample

/-- The samples of a group, in the order in which they are reported. -/
def StateGroup.samples (g : StateGroup) : List Sample := g.indicators ++ [g.admin]

/-- The state number `info` and the `group` are of one neighbour, one of the seven indicators is at
one, and it is the one of the state with that number. -/
structure TellSame (info : Sample) (group : StateGroup) : Prop where
  names : info.name = "fortigate_bgp_neighbor_ipv4_info" ∧
    (∀ x ∈ group.indicators, x.name = "fortigate_bgp_neighbor_ipv4_state") ∧
    group.admin.name = "fortigate_bgp_neighbor_ipv4_admin_up"
  neighbor : ∃ vdom ip, ∀ x ∈ info :: group.samples,
    x.label? "vdom" = some vdom ∧ x.label? "neighbor_ip" = some ip
  states : group.indicators.map (·.label? "state") = [some "Idle", some "Connect", some "Active",
    some "OpenSent", some "OpenConfirm", some "Established", some "unknown"]
  one : group.indicators.countP (fun x => x.value = 1.0) = 1
  number : ∀ p ∈ numberedStates, info.value = Binary64.ofInt p.1 ↔
    ∃ x ∈ group.indicators, x.label? "state" = some p.2 ∧ x.value = 1.0

/-- The group of the neighbour `n`. -/
def groupOf (vdom : String) (n : BgpNeighbor) : StateGroup where
  indicators := ipv4State.samplePerState [vdom, n.neighborIp] n.state states
  admin := ipv4AdminUp.sample (indicator n.isEnabled) [vdom, n.neighborIp]

/-- The indicators of a neighbour, with their labels written out. -/
theorem indicators_groupOf (vdom : String) (n : BgpNeighbor) :
    (groupOf vdom n).indicators = (states ++ ["unknown"]).map fun state =>
      { name := ipv4State.name, help := ipv4State.help, kind := ipv4State.kind
        value := indicator (state == effectiveState n.state states)
        labels := [("vdom", vdom), ("neighbor_ip", n.neighborIp), ("state", state)] } := by
  have hsound : StateFamily.IsSound ⟨ipv4State, states⟩ := by decide +kernel
  have hlength : [vdom, n.neighborIp].length + 1 = ipv4State.labels.length := rfl
  exact hsound.samplePerState_eq hlength n.state

/-- One indicator of a neighbour is at one. -/
theorem countP_indicators_groupOf (vdom : String) (n : BgpNeighbor) :
    (groupOf vdom n).indicators.countP (fun x => x.value = 1.0) = 1 := by
  have hmem : effectiveState n.state states ∈ states ++ ["unknown"] :=
    StateFamily.effectiveState_mem ⟨ipv4State, states⟩ n.state
  rw [indicators_groupOf, List.countP_map]
  have hcount : (states ++ ["unknown"]).count (effectiveState n.state states) = 1 :=
    List.count_eq_one_of_mem (by decide) hmem
  rw [← hcount, List.count]
  refine List.countP_congr fun state _ => ?_
  simp [indicator_eq_one_iff]

/-- `infoSample` and `groupOf` tell the same about a neighbour. -/
theorem tellSame_samples (vdom : String) (n : BgpNeighbor) :
    TellSame (infoSample ipv4Info vdom n) (groupOf vdom n) where
  names := by
    refine ⟨rfl, fun x hx => ?_, rfl⟩
    rw [indicators_groupOf] at hx
    obtain ⟨state, -, rfl⟩ := List.mem_map.1 hx
    rfl
  neighbor := by
    refine ⟨vdom, n.neighborIp, fun x hx => ?_⟩
    rw [StateGroup.samples, indicators_groupOf] at hx
    rcases List.mem_cons.1 hx with rfl | hx
    · exact ⟨rfl, rfl⟩
    · rcases List.mem_append.1 hx with hx | hx
      · obtain ⟨state, -, rfl⟩ := List.mem_map.1 hx
        exact ⟨rfl, rfl⟩
      · rw [List.mem_singleton.1 hx]
        exact ⟨rfl, rfl⟩
  states := by
    rw [indicators_groupOf]
    rfl
  one := countP_indicators_groupOf vdom n
  number := by
    intro p hp
    have hvalue : (infoSample ipv4Info vdom n).value = Binary64.ofInt (stateNumber n.state) := rfl
    have hmem : ∀ p ∈ numberedStates, p.2 ∈ states ++ ["unknown"] := by decide
    -- Both sides say that the state is reported as the one with that number.
    rw [hvalue, ofInt_stateNumber_eq_iff hp, stateNumber_eq_iff hp, indicators_groupOf]
    constructor
    · intro heq
      refine ⟨_, List.mem_map_of_mem (hmem p hp), rfl, ?_⟩
      exact indicator_eq_one_iff.2 (beq_iff_eq.2 heq.symm)
    · rintro ⟨x, hx, hlabel, hone⟩
      obtain ⟨state, -, rfl⟩ := List.mem_map.1 hx
      obtain rfl : state = p.2 := Option.some.inj hlabel
      exact (beq_iff_eq.1 (indicator_eq_one_iff.1 hone)).symm

/-! ## Both routines -/

/-- Both routines are in the table. -/
theorem mem_table : ipv4Routine ∈ routineTable ∧ ipv4StateRoutine ∈ routineTable := by
  simp [routineTable]

/-- Both routines failed with one error, or both list the same neighbours in the same order. -/
inductive OutcomesAgree : RoutineOutcome → RoutineOutcome → Prop
  | failed (cause : ProbeError) : OutcomesAgree (.failed cause) (.failed cause)
  | collected {infos : List Sample} {groups : List StateGroup}
    (h : List.Forall₂ TellSame infos groups) :
    OutcomesAgree (.collected infos) (.collected (groups.flatMap (·.samples)))

/-- The routines agree whenever both are given one answer. -/
theorem outcomesAgree_turn {σ : Type} (device : Device σ) {ctx ctx' : ScrapeContext} {s t : σ}
    (hanswer : (device.answer s ⟨ipv4Path, everyDomain⟩).1 =
      (device.answer t ⟨ipv4Path, everyDomain⟩).1)
    (hinfo : (Scrape.turn device ctx ipv4Routine s).outcome ≠ .skipped)
    (hstate : (Scrape.turn device ctx' ipv4StateRoutine t).outcome ≠ .skipped) :
    OutcomesAgree (Scrape.turn device ctx ipv4Routine s).outcome
      (Scrape.turn device ctx' ipv4StateRoutine t).outcome := by
  rw [Scrape.outcome_turn device hinfo, Scrape.outcome_turn device hstate, ipv4Routine,
    ipv4StateRoutine, Routine.value_collect_ofEndpoint, Routine.value_collect_ofEndpoint, hanswer]
  -- Both read one answer with one decoder, so they fail together.
  cases Collection.readAnswer decoder ipv4Path (device.answer t ⟨ipv4Path, everyDomain⟩).1 with
  | error cause => exact .failed cause
  | ok envelopes =>
    have hgroups : stateSamplesOfAll envelopes =
        ((Envelope.perResult envelopes).map fun p => groupOf p.1 p.2).flatMap (·.samples) := by
      rw [List.flatMap_map]
      rfl
    have heach : List.Forall₂ TellSame (infoSamples ipv4Info envelopes)
        ((Envelope.perResult envelopes).map fun p => groupOf p.1 p.2) := by
      rw [infoSamples, List.forall₂_map_left_iff, List.forall₂_map_right_iff, List.forall₂_same]
      exact fun p _ => tellSame_samples p.1 p.2
    show OutcomesAgree (.collected (infoSamples ipv4Info envelopes))
      (.collected (stateSamplesOfAll envelopes))
    rw [hgroups]
    exact .collected heach

/-- In scrapes of a device, whatever its version is and whichever other routines run, the routines
that list the IPv4 neighbours both fail with one error or both collect.  What they collect is of the
same neighbours in the same order, and the number `info` of a neighbour's state is that of the one
indicator in `state` that is at one, whatever the text of the state is. -/
theorem neighbor_routines_agree (f : Endpoint → Answer) (options options' : ProbeOptions)
    {info state : RoutineOutcome}
    (hinfo : ⟨"bgp_neighbors_ipv4", info⟩ ∈ (Scrape.reportOf f options).routines)
    (hstate : ⟨"bgp_neighbor_state_ipv4", state⟩ ∈ (Scrape.reportOf f options').routines)
    (hran : info ≠ .skipped) (hran' : state ≠ .skipped) : OutcomesAgree info state := by
  obtain ⟨-, rfl⟩ := (Scrape.mem_routines_reportOf_iff (r := ipv4Routine) mem_table.1).1 hinfo
  obtain ⟨-, rfl⟩ := (Scrape.mem_routines_reportOf_iff (r := ipv4StateRoutine) mem_table.2).1 hstate
  exact outcomesAgree_turn (.ofFunction f) rfl hran hran'

/-- A state that is known, one in another case and the text of the reserved one, in two virtual
domains. -/
theorem neighbor_routines_agree_spelled :
    let neighbor (ip state : String) : Json :=
      .obj [("neighbor_ip", .str ip), ("state", .str state)]
    let envelope (vdom : String) (neighbors : List Json) : Json :=
      .obj [("results", .arr neighbors), ("vdom", .str vdom)]
    let f : Endpoint → Answer := fun e =>
      if e.path = SystemStatus.path then
        .ok (.obj [("results", .obj []), ("version", .str "v7.0.1")])
      else .ok (.arr [
        envelope "root" [neighbor "10.0.0.1" "Established", neighbor "10.0.0.2" "established"],
        envelope "dmz" [neighbor "10.0.0.1" "unknown"]])
    ∃ info state, ⟨"bgp_neighbors_ipv4", info⟩ ∈ (Scrape.reportOf f {}).routines ∧
      ⟨"bgp_neighbor_state_ipv4", state⟩ ∈ (Scrape.reportOf f {}).routines ∧
      info.samples.map (·.value) = [6.0, 0.0, 0.0] ∧ state.samples.length = 24 ∧
      OutcomesAgree info state := by
  intro neighbor envelope f
  let outcomeOf (r : Routine) : RoutineOutcome :=
    (Scrape.turn (.ofFunction f) (Scrape.contextOf f {}) r ()).outcome
  have hinfo : ⟨"bgp_neighbors_ipv4", outcomeOf ipv4Routine⟩ ∈ (Scrape.reportOf f {}).routines :=
    (Scrape.mem_routines_reportOf_iff (r := ipv4Routine) mem_table.1).2 ⟨rfl, rfl⟩
  have hstate : ⟨"bgp_neighbor_state_ipv4", outcomeOf ipv4StateRoutine⟩ ∈
      (Scrape.reportOf f {}).routines :=
    (Scrape.mem_routines_reportOf_iff (r := ipv4StateRoutine) mem_table.2).2 ⟨rfl, rfl⟩
  have hvalues : (outcomeOf ipv4Routine).samples.map (·.value) = [6.0, 0.0, 0.0] := by
    decide +kernel
  have hlength : (outcomeOf ipv4StateRoutine).samples.length = 24 := by decide +kernel
  refine ⟨_, _, hinfo, hstate, hvalues, hlength, ?_⟩
  -- A routine that reports samples was not skipped.
  refine neighbor_routines_agree f {} {} hinfo hstate (fun h => ?_) fun h => ?_
  · rw [h] at hvalues
    cases hvalues
  · rw [h] at hlength
    cases hlength

end BgpNeighbor
end FirewallProbe
