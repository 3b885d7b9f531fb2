import FirewallProbe.Proofs.Scrape.Turns

/-!
# A scrape is composed of its turns

The report of a scrape lists the routines that the filter allows and holds their blocks of samples
one after the other.  A failing routine adds nothing and is named in the log; it does not stop the
others.  The table, the device and the options are arbitrary.

## Key results

- `Turn.isAtomic`: a block is the complete list that a body ended with, or empty
- `isComposedOf_addTurns`: the fields of a report that starts empty belong together
- `failureNotices_run`: who is named in the log
-/

namespace FirewallProbe

/-- Whether an event tells that a routine failed. -/
def Event.isFailureNotice (e : Event) : Bool := e.level = .warn ∧ e.message = "Routine failed"

/-- The routine that an event is about. -/
def Event.routine? (e : Event) : Option String := e.fields.lookup "routine"

/-- The routines that are said to have failed, in the order of the events. -/
def failureNotices (events : List Event) : List (Option String) :=
  (events.filter Event.isFailureNotice).map Event.routine?

@[simp] theorem failureNotices_nil : failureNotices [] = [] := rfl

@[simp] theorem failureNotices_append (xs ys : List Event) :
    failureNotices (xs ++ ys) = failureNotices xs ++ failureNotices ys := by
  simp [failureNotices]

/-- `failureNotices` goes through blocks of events one after the other. -/
theorem failureNotices_flatMap {α : Type} (f : α → List Event) (as : List α) :
    failureNotices (as.flatMap f) = as.flatMap fun a => failureNotices (f a) := by
  induction as with
  | nil => rfl
  | cons a rest ih => rw [List.flatMap_cons, failureNotices_append, ih, List.flatMap_cons]

/-- `failureNotices` finds nothing among events that tell of no failure. -/
theorem failureNotices_eq_nil {events : List Event}
    (h : ∀ e ∈ events, e.isFailureNotice = false) : failureNotices events = [] := by
  rw [failureNotices, List.map_eq_nil_iff, List.filter_eq_nil_iff]
  intro e he
  simp [h e he]

variable {σ : Type}

/-! ## The end of a turn -/

namespace Turn

/-- A turn adds all or nothing: its block is the complete list that a body which succeeded ended
with, and empty if the body was not played or failed, whatever it had made before. -/
def IsAtomic (t : Turn σ) : Prop :=
  (t.label = "collected" ∧ ∃ body, t.body? = some body ∧ body.value = .ok t.block) ∨
    (t.label = "skipped" ∧ t.body? = none ∧ t.block = []) ∨
    (t.label = "failed" ∧ (∃ body cause, t.body? = some body ∧ body.value = .error cause) ∧
      t.block = [])

/-- Every turn `IsAtomic`, whatever its routine does. -/
theorem isAtomic (t : Turn σ) : t.IsAtomic := by
  cases hbody : t.body? with
  | none =>
    have houtcome : t.outcome = .skipped := by simp [outcome, hbody]
    have hlabel : t.label = "skipped" := by rw [label, houtcome]; rfl
    have hblock : t.block = [] := by rw [block, houtcome]; rfl
    exact .inr (.inl ⟨hlabel, hbody, hblock⟩)
  | some body =>
    cases hvalue : body.value with
    | ok samples =>
      have houtcome : t.outcome = .collected samples := by simp [outcome, hbody, hvalue]
      have hlabel : t.label = "collected" := by rw [label, houtcome]; rfl
      have hblock : t.block = samples := by rw [block, houtcome]; rfl
      exact .inl ⟨hlabel, body, hbody, hblock ▸ hvalue⟩
    | error cause =>
      have houtcome : t.outcome = .failed cause := by simp [outcome, hbody, hvalue]
      have hlabel : t.label = "failed" := by rw [label, houtcome]; rfl
      have hblock : t.block = [] := by rw [block, houtcome]; rfl
      exact .inr (.inr ⟨hlabel, ⟨body, cause, hbody, hvalue⟩, hblock⟩)

/-- The `verdict` of a turn names its routine if and only if it failed. -/
theorem failureNotices_verdict (t : Turn σ) :
    failureNotices t.verdict = if t.label = "failed" then [some t.routine.name] else [] := by
  cases h : t.outcome with
  | collected samples => simp [verdict, label, h, RoutineOutcome.name]
  | skipped =>
    -- What is noted about a skipped routine has another level and another message.
    have hquiet : failureNotices t.verdict = [] := by
      refine failureNotices_eq_nil fun e he => ?_
      simp only [verdict, h] at he
      obtain ⟨least, _, rfl⟩ := List.mem_map.1 he
      rfl
    simp [hquiet, label, h, RoutineOutcome.name]
  | failed cause =>
    simp only [verdict, label, h]
    rfl

end Turn

/-- An outcome fails the scrape exactly if its `label` says so. -/
theorem RoutineReport.isOk_eq_false_iff (e : RoutineReport) :
    e.isOk = false ↔ e.label = "failed" := by
  unfold isOk label
  cases e.outcome <;> simp [RoutineOutcome.isOk, RoutineOutcome.name]

/-! ## The fields of a report -/

/-- The number of samples that entries count together. -/
def RoutineReport.countAll (entries : List RoutineReport) : Nat :=
  entries.foldr (fun e n => e.count + n) 0

/-- The entries of turns count the samples of their blocks. -/
private theorem countAll_entries (ts : List (Turn σ)) :
    RoutineReport.countAll (ts.map (·.entry)) = (ts.flatMap (·.block)).length := by
  induction ts with
  | nil => rfl
  | cons t rest ih =>
    rw [List.flatMap_cons, List.length_append, ← ih]
    rfl

/-- A report that consists of turns: what it says about each routine and about all of them. -/
structure ScrapeReport.IsComposedOf (report : ScrapeReport) (ts : List (Turn σ)) : Prop where
  /-- One entry for each turn, in the order of the turns. -/
  entries : report.routines.map (fun e => (e.name, e.label)) =
    ts.map fun t => (t.routine.name, t.label)
  /-- The blocks stand one after the other. -/
  samples : report.samples = ts.flatMap (·.block)
  /-- An entry counts the samples of its block. -/
  counts : report.routines.map (·.count) = ts.map (·.block.length)
  /-- The counts add up to the number of all samples. -/
  countAll : RoutineReport.countAll report.routines = report.samples.length
  /-- A routine is not in order exactly if it failed. -/
  isOk_entry : ∀ e ∈ report.routines, e.isOk = false ↔ e.label = "failed"
  /-- The scrape is in order if every routine is. -/
  isOk : report.isOk = report.routines.all (·.isOk)

/-- The fields that `addTurns` accumulates belong together. -/
theorem ScrapeReport.isComposedOf_addTurns (firmware : Option Firmware) (ts : List (Turn σ)) :
    (ScrapeReport.addTurns { firmware } ts).IsComposedOf ts := by
  have hentries : (ScrapeReport.addTurns { firmware } ts).routines = ts.map (·.entry) := by
    simp [addTurns_eq]
  have hsamples : (ScrapeReport.addTurns { firmware } ts).samples = ts.flatMap (·.block) := by
    simp [addTurns_eq]
  have hcounts : ts.map (fun t => t.entry.count) = ts.map (·.block.length) := rfl
  constructor
  · rw [hentries, List.map_map]
    rfl
  · exact hsamples
  · rw [hentries, List.map_map]
    exact hcounts
  · rw [hentries, hsamples]
    exact countAll_entries ts
  · exact fun e _ => e.isOk_eq_false_iff
  · rw [hentries, List.all_map, addTurns_eq, Bool.true_and]
    rfl

namespace Scrape

/-! ## The log -/

/-- `resolve` notes nothing that tells of a failed routine. -/
theorem within_resolve (options : ProbeOptions) :
    (resolve options).Within (fun _ => True) (fun e => e.isFailureNotice = false)
      fun _ => True := by
  have hversion : ∀ version, ∀ e ∈ versionEvents version, e.isFailureNotice = false := by
    intro version e he
    unfold versionEvents at he
    split at he
    · rw [List.mem_singleton.1 he]; rfl
    · rw [List.mem_singleton.1 he]; rfl
    · simp at he
  have hask : askStatus.Within (fun _ => True) (fun e => e.isFailureNotice = false)
      fun _ => True := by
    have hfetch : (Collection.fetch SystemStatus.decoder SystemStatus.path "").Within
        (fun _ => True) (fun e => e.isFailureNotice = false) fun _ => True :=
      Collection.within_fetch _ trivial
    refine Dialogue.Within.bind hfetch fun result _ => ?_
    cases result with
    | ok status => exact trivial
    | error cause => exact ⟨rfl, trivial⟩
  exact hask.bind fun status _ =>
    (Dialogue.within_noteAll (hversion _)).bind fun _ _ => trivial

/-- The routines named in the log of `scrapeWith`: those that failed, each after what its own body
noted. -/
theorem failureNotices_run (table : List Routine) (options : ProbeOptions) (device : Device σ)
    (s : σ) :
    failureNotices ((scrapeWith table options).run device s).events =
      (turnsOf device table options s).flatMap fun t =>
        failureNotices t.notes ++ if t.label = "failed" then [some t.routine.name] else [] := by
  have hstart : failureNotices ((resolve options).run device s).events = [] :=
    failureNotices_eq_nil ((within_resolve options).of_run device s).2.1
  have hend : ∀ report, failureNotices [finishedEvent report] = [] := fun _ => rfl
  simp only [run_scrapeWith, failureNotices_append, hstart, hend, failureNotices_flatMap,
    Turn.failureNotices_verdict, List.nil_append, List.append_nil]

/-- Routines whose bodies do not speak of failures are named in the log exactly if they failed. -/
theorem failureNotices_run_of_quiet {table : List Routine} {options : ProbeOptions}
    {device : Device σ} {s : σ}
    (h : ∀ t ∈ turnsOf device table options s, failureNotices t.notes = []) :
    failureNotices ((scrapeWith table options).run device s).events =
      (((scrapeWith table options).run device s).value.routines.filter
        fun e => e.label = "failed").map fun e => some e.name := by
  have hentries : ((scrapeWith table options).run device s).value.routines =
      (turnsOf device table options s).map (·.entry) := by
    simp [run_scrapeWith, ScrapeReport.addTurns_eq]
  rw [failureNotices_run, hentries]
  -- From here on only the turns matter, not how they came about.
  generalize turnsOf device table options s = ts at h ⊢
  induction ts with
  | nil => rfl
  | cons t rest ih =>
    rw [List.forall_mem_cons] at h
    have hlabel : t.entry.label = t.label := rfl
    rw [List.flatMap_cons, h.1, ih h.2, List.map_cons, List.filter_cons, hlabel]
    by_cases hfailed : t.label = "failed"
    · simp [hfailed, Turn.entry]
    · simp [hfailed]

/-- `scrapeWith` gives every routine that the filter allows one turn, in the order of the `table`,
and its report is composed of these turns: a block is complete or empty, and a failure touches no
other routine.  The log names every failed routine once, besides what the bodies note themselves. -/
theorem run_scrapeWith_isComposedOf (table : List Routine) (options : ProbeOptions)
    (device : Device σ) (s : σ) :
    let ts := turnsOf device table options s
    let run := (scrapeWith table options).run device s
    ts.map (·.routine) = table.filter (fun r => options.routines.allows r.name) ∧
      run.calls = ((resolve options).run device s).calls ++ ts.flatMap (·.calls) ∧
      run.value.IsComposedOf ts ∧
      (∀ t ∈ ts, t.IsAtomic) ∧
      (failureNotices run.events = ts.flatMap fun t =>
        failureNotices t.notes ++ if t.label = "failed" then [some t.routine.name] else []) ∧
      ((∀ t ∈ ts, failureNotices t.notes = []) →
        failureNotices run.events =
          (run.value.routines.filter fun e => e.label = "failed").map fun e => some e.name) := by
  intro ts run
  have hroutines : ts.map (·.routine) = chosen options table := map_routine_turns _ _ _ _
  have hreport : run.value = ScrapeReport.addTurns
      { firmware := ((resolve options).run device s).value.firmware } ts := by
    simp only [run, run_scrapeWith, ts]
  have hcalls : run.calls = ((resolve options).run device s).calls ++ ts.flatMap (·.calls) := by
    simp only [run, run_scrapeWith, ts]
  refine ⟨hroutines, hcalls, ?_, fun t _ => t.isAtomic, failureNotices_run table options device s,
    failureNotices_run_of_quiet⟩
  rw [hreport]
  exact ScrapeReport.isComposedOf_addTurns _ ts

end Scrape
end FirewallProbe
