import FirewallProbe.Proofs.Scrape.CallTrace
import FirewallProbe.Proofs.Yields

/-!
# What a scrape reports about a routine

A report has one part about each routine that the filter allows.  For a routine that runs, the part
tells what the routine collected or that it failed, and nothing else: neither the cause of a failure
nor anything about the state in which the routine found the device.

## Key results

- `Scrape.partsNamed_scrape`: the only part about a routine is that of its turn
- `Scrape.partsNamed_of_yields`: the part about a routine that comes to one result in every state
-/

namespace FirewallProbe

variable {σ : Type}

/-- What is reported about a routine that ran: the samples, if it collected them. -/
def ReportPart.ofResult (name : String) : Option (List Sample) → ReportPart
  | some samples => ⟨name, "collected", true, samples.length, samples⟩
  | none => ⟨name, "failed", false, 0, []⟩

/-- The `part` of a turn with a body is what its body collected. -/
theorem Turn.part_of_body {t : Turn σ}
    {body : Dialogue.Transcript σ (Except ProbeError (List Sample))} (h : t.body? = some body) :
    t.part = .ofResult t.routine.name body.value.toOption := by
  cases hvalue : body.value <;>
    simp [part, label, entry, block, outcome, h, hvalue, RoutineReport.isOk, RoutineOutcome.name,
      RoutineOutcome.isOk, RoutineOutcome.samples, ReportPart.ofResult, Except.toOption]

namespace Scrape

variable (device : Device σ) {options : ProbeOptions} {r : Routine}

/-- The only part of a report about the routine `r` is that of its `turn`, in some state of the
device. -/
theorem partsNamed_scrape (hr : r ∈ routineTable) (h : options.routines.allows r.name = true)
    (s : σ) :
    ∃ s', ((scrape options).run device s).value.partsNamed r.name =
      [(turn device ((resolve options).run device s).value r s').part] := by
  let ts := turnsOf device routineTable options s
  have hmem : r ∈ ts.map (·.routine) := by
    rw [map_routine_turnsOf]
    exact List.mem_filter.2 ⟨hr, h⟩
  obtain ⟨t, ht, rfl⟩ := List.mem_map.1 hmem
  have hnodup : (ts.map fun t => t.routine.name).Nodup := by
    have hnames : ((chosen options routineTable).map (·.name)).Nodup :=
      nodup_names_routineTable.sublist (List.filter_sublist.map _)
    rwa [← map_routine_turnsOf device options s, List.map_map] at hnames
  -- Names are distinct in the table, so no other turn is reported under this one.
  have honly := List.filter_key_eq_singleton hnodup ht
  have hpart : ((scrape options).run device s).value.partsNamed t.routine.name = [t.part] := by
    rw [ScrapeReport.partsNamed, value_scrape, ScrapeReport.parts_addTurns, List.filter_map]
    exact congrArg (List.map _) honly
  obtain ⟨before, after, hsplit⟩ := List.append_of_mem ht
  obtain ⟨-, hturn⟩ := turn_of_turnsOf_append device hsplit
  exact ⟨_, hpart.trans (congrArg (fun t => [Turn.part t]) hturn)⟩

/-- What is reported about a routine that `Yields` one result in every state of the device. -/
theorem partsNamed_of_yields {s : σ} {result : Option (List Sample)} (hr : r ∈ routineTable)
    (h : options.routines.allows r.name = true)
    (hsupported : r.isSupported ((resolve options).run device s).value.firmware = true)
    (hyields : Collection.Yields device (r.collect ((resolve options).run device s).value) result) :
    ((scrape options).run device s).value.partsNamed r.name = [.ofResult r.name result] := by
  obtain ⟨s', hpart⟩ := partsNamed_scrape device hr h s
  rw [hpart, Turn.part_of_body (if_pos hsupported), hyields s']
  rfl

end Scrape
end FirewallProbe
