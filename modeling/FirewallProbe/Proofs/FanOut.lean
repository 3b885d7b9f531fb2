import Mathlib.Data.List.Nodup
import FirewallProbe.FanOut

/-!
# One state at one

A status becomes one indicator for each known state and for `unknown`.  The indicator at one is that
of the status, or of `unknown` if the status is not known; a state that is listed twice is at one
twice.  The samples of a status share one list of label values, whose last place takes each state in
turn, and come behind those that are there already.

## Key results

- `allStates_eq_append` / `effectiveState_mem_allStates`: the states, one of which is reported
- `countP_fanOut`: as many indicators are at one as the reported state is listed
- `Family.emitStates_eq`: what is added for a status
- `fan_out_states`: all of this, for any status and any list of states
-/

namespace FirewallProbe

/-! ## Indicators -/

theorem zero_ne_one_float : (0.0 : Float) ≠ 1.0 := by decide +kernel

/-- An `indicator` is at one for `true` only. -/
theorem indicator_eq_one_iff {b : Bool} : indicator b = 1.0 ↔ b = true := by
  cases b <;> simp [indicator, zero_ne_one_float]

theorem indicator_eq_zero_or_one (b : Bool) : indicator b = 0.0 ∨ indicator b = 1.0 := by
  cases b
  · exact .inl rfl
  · exact .inr rfl

/-! ## States -/

/-- `allStates` puts `unknownState` behind the `known` states, unless it is one of them. -/
theorem allStates_eq_append (known : List String) :
    allStates known = known ++ if unknownState ∈ known then [] else [unknownState] := by
  unfold allStates
  split
  · exact (List.append_nil _).symm
  · rfl

/-- The state that `fanOut` sets to one is among the states it lists. -/
theorem effectiveState_mem_allStates (status : String) (known : List String) :
    effectiveState status known ∈ allStates known := by
  unfold effectiveState allStates
  split <;> split <;> simp_all

/-- States that are listed once are listed once in `allStates` too. -/
theorem nodup_allStates {known : List String} (h : known.Nodup) : (allStates known).Nodup := by
  unfold allStates
  split
  next => exact h
  next hnot =>
    refine List.nodup_append.2 ⟨h, List.pairwise_singleton _ _, ?_⟩
    rintro state hstate _ hother rfl
    exact hnot (List.mem_singleton.1 hother ▸ hstate)

/-- `fanOut` has as many indicators at one as `allStates` lists the `effectiveState`. -/
theorem countP_fanOut (status : String) (known : List String) :
    (fanOut status known).countP (fun i => i.2 = 1.0) =
      (allStates known).count (effectiveState status known) := by
  rw [fanOut, List.countP_map, List.count]
  refine List.countP_congr fun state _ => ?_
  simp [indicator_eq_one_iff]

/-! ## Samples -/

/-- `putState` writes over the state that was put before, and no other label. -/
theorem putState_concat (labels : List String) (last state : String) :
    putState (labels ++ [last]) state = labels ++ [state] := by
  simp [putState]

namespace Family

/-- `emitIndicators` uses its buffer of labels again, and leaves nothing of `last` in the samples:
each has its own state behind `labels`. -/
theorem emitIndicators_concat (f : Family) (labels : List String) (last : String)
    (out : List Sample) (indicators : List (String × Float)) :
    f.emitIndicators (labels ++ [last]) out indicators =
      out ++ indicators.map fun i => f.sample i.2 (labels ++ [i.1]) := by
  -- The last place is overwritten before it is read, so the induction is for anything in it.
  induction indicators generalizing last out with
  | nil => exact (List.append_nil _).symm
  | cons i rest ih =>
    rw [emitIndicators, putState_concat, ih, List.append_assoc, List.map_cons,
      List.singleton_append]

/-- `emitStates` puts `samplePerState` behind the samples in `out`. -/
theorem emitStates_eq (f : Family) (labels : List String) (status : String) (known : List String)
    (out : List Sample) :
    f.emitStates labels status known out = out ++ f.samplePerState labels status known :=
  emitIndicators_concat f labels "" out _

/-- The labels of a sample whose last label is its `state`. -/
theorem sample_concat {f : Family} {keys values : List String}
    (hlabels : f.labels = keys ++ ["state"]) (hvalues : values.length = keys.length)
    (value : Float) (state : String) :
    f.sample value (values ++ [state]) =
      ⟨f.name, f.help, f.kind, value, keys.zip values ++ [("state", state)]⟩ := by
  rw [sample, hlabels, List.zip_append hvalues.symm]
  rfl

end Family

/-- `fanOut` lists the `known` states, with `unknown` behind them if it is not among them, and each
of them is at zero or at one.  At one is the `status`, or `unknown` if it is not known; this is one
indicator at least, and no more than one where no state is known twice.  `emitStates` puts its
samples behind those in `out`, one for each state in this order, each with its own state behind the
`values` of the other labels. -/
theorem fan_out_states (status : String) (known : List String) :
    (fanOut status known).map (·.1) = known ++ (if "unknown" ∈ known then [] else ["unknown"]) ∧
    (∀ i ∈ fanOut status known, i.2 = 0.0 ∨ i.2 = 1.0) ∧
    (∀ i ∈ fanOut status known,
      i.2 = 1.0 ↔ i.1 = if status ∈ known then status else "unknown") ∧
    1 ≤ (fanOut status known).countP (fun i => i.2 = 1.0) ∧
    (known.Nodup → (fanOut status known).countP (fun i => i.2 = 1.0) = 1) ∧
    ∀ (f : Family) (keys values : List String) (out : List Sample),
      f.labels = keys ++ ["state"] → values.length = keys.length →
      f.emitStates values status known out = out ++ f.samplePerState values status known ∧
      f.samplePerState values status known = (fanOut status known).map fun i =>
        ⟨f.name, f.help, f.kind, i.2, keys.zip values ++ [("state", i.1)]⟩ := by
  have hmem := effectiveState_mem_allStates status known
  refine ⟨?_, fun i hi => ?_, fun i hi => ?_, ?_, fun hnodup => ?_,
    fun f keys values out hlabels hvalues => ⟨f.emitStates_eq values status known out, ?_⟩⟩
  · rw [map_fst_fanOut, allStates_eq_append]
    rfl
  · obtain ⟨state, -, rfl⟩ := List.mem_map.1 hi
    exact indicator_eq_zero_or_one _
  · obtain ⟨state, -, rfl⟩ := List.mem_map.1 hi
    rw [indicator_eq_one_iff, beq_iff_eq]
    rfl
  -- At least one: the effective state is listed.
  · rw [countP_fanOut]
    exact List.count_pos_iff.2 hmem
  · rw [countP_fanOut]
    exact List.count_eq_one_of_mem (nodup_allStates hnodup) hmem
  · exact List.map_congr_left fun i _ => Family.sample_concat hlabels hvalues i.2 i.1

/-- A family of states with one other label. -/
def linkState : Family := .gauge "link_state" "State of a link" ["link", "state"]

/-- A status without text is `unknown`, and the samples of another link stay as they were. -/
theorem fan_out_states_blank :
    ["up", "unknown", "down"].Nodup ∧ linkState.labels = ["link"] ++ ["state"] ∧
      ["wan1"].length = ["link"].length ∧
      (fanOut "" ["up", "unknown", "down"]).countP (fun i => i.2 = 1.0) = 1 ∧
      ("unknown", 1.0) ∈ fanOut "" ["up", "unknown", "down"] ∧
      (linkState.emitStates ["wan1"] "" ["up", "unknown", "down"]
          [linkState.sample 1.0 ["wan2", "up"]]).map (fun s => (s.value, s.labels)) =
        [(1.0, [("link", "wan2"), ("state", "up")]), (0.0, [("link", "wan1"), ("state", "up")]),
          (1.0, [("link", "wan1"), ("state", "unknown")]),
          (0.0, [("link", "wan1"), ("state", "down")])] := by
  have hmem : ("unknown", 1.0) ∈ fanOut "" ["up", "unknown", "down"] :=
    List.mem_map.2 ⟨"unknown", by decide, rfl⟩
  obtain ⟨-, -, -, -, hone, hemit⟩ := fan_out_states "" ["up", "unknown", "down"]
  obtain ⟨hbehind, hsamples⟩ :=
    hemit linkState ["link"] ["wan1"] [linkState.sample 1.0 ["wan2", "up"]] rfl rfl
  refine ⟨by decide, rfl, rfl, hone (by decide), hmem, ?_⟩
  rw [hbehind, hsamples]
  decide +kernel

end FirewallProbe
