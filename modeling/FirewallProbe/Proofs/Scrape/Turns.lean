import FirewallProbe.Proofs.Dialogue
import FirewallProbe.Scrape

/-!
# The turns of a scrape

A scrape gives each routine one turn, in the state in which the routines before it left the device.
`turns` lists them without looking at any report, and the loop over the routines is described by it:
calls, events and state of the run are those of the turns, and the report takes their outcomes in.

## Key results

- `run_routine`: one routine does what its turn tells
- `run_runAll`: a list of routines does what their turns tell, one after the other
- `calls_resolve`: the status is asked for first, and once
- `run_scrapeWith`: a whole scrape, from the first call to the last event
-/

namespace FirewallProbe

open Dialogue (Transcript)

/-- The turn of a routine: its body played against the device, or nothing where the firmware does
not support the routine. -/
structure Turn (σ : Type) where
  routine : Routine
  body? : Option (Transcript σ (Except ProbeError (List Sample)))

namespace Turn

variable {σ : Type}

/-- The outcome that the end of the body stands for. -/
def outcome (t : Turn σ) : RoutineOutcome :=
  match t.body? with
  | none => .skipped
  | some body =>
    match body.value with
    | .ok samples => .collected samples
    | .error cause => .failed cause

/-- The state in which the turn leaves the device. -/
def stateAfter (t : Turn σ) (s : σ) : σ := (t.body?.map (·.state)).getD s

/-- What the body asked. -/
def calls (t : Turn σ) : List Endpoint := (t.body?.map (·.calls)).getD []

/-- The events that the body itself noted. -/
def notes (t : Turn σ) : List Event := (t.body?.map (·.events)).getD []

/-- The events noted about the outcome. -/
def verdict (t : Turn σ) : List Event :=
  match t.outcome with
  | .collected _ => []
  | .skipped => t.routine.since.toList.map (Routine.unsupportedEvent t.routine.name)
  | .failed cause => [Routine.failedEvent t.routine.name cause]

/-- The entry of the turn in a report. -/
def entry (t : Turn σ) : RoutineReport := ⟨t.routine.name, t.outcome⟩

/-- The name of the outcome. -/
def label (t : Turn σ) : String := t.outcome.name

/-- The samples that the turn adds to a report. -/
def block (t : Turn σ) : List Sample := t.outcome.samples

end Turn

/-- A report with the outcomes of some turns taken in. -/
def ScrapeReport.addTurns {σ : Type} (report : ScrapeReport) (turns : List (Turn σ)) :
    ScrapeReport :=
  turns.foldl (fun r t => r.add t.routine.name t.outcome) report

section addTurns

variable {σ : Type} (report : ScrapeReport) (turns : List (Turn σ))

@[simp] theorem ScrapeReport.addTurns_nil :
    report.addTurns ([] : List (Turn σ)) = report := rfl

@[simp] theorem ScrapeReport.addTurns_cons (t : Turn σ) :
    report.addTurns (t :: turns) = (report.add t.routine.name t.outcome).addTurns turns := rfl

/-- What `addTurns` accumulates in each field of a report. -/
theorem ScrapeReport.addTurns_eq :
    report.addTurns turns =
      { firmware := report.firmware
        samples := report.samples ++ turns.flatMap (·.block)
        isOk := report.isOk && turns.all (·.entry.isOk)
        routines := report.routines ++ turns.map (·.entry) } := by
  induction turns generalizing report with
  | nil => simp
  | cons t rest ih =>
    rw [addTurns_cons, ih]
    simp [add, Turn.block, Turn.entry, RoutineReport.isOk, Bool.and_assoc]

end addTurns

namespace Scrape

variable {σ : Type} (device : Device σ)

/-- The turn of the routine `r` in the state `s` of the device. -/
def turn (ctx : ScrapeContext) (r : Routine) (s : σ) : Turn σ where
  routine := r
  body? := if r.isSupported ctx.firmware then some ((r.collect ctx).run.run device s) else none

/-- The turns of routines, one after the other, each in the state in which the last one left the
device. -/
def turns (ctx : ScrapeContext) : List Routine → σ → List (Turn σ)
  | [], _ => []
  | r :: rest, s =>
    let t := turn device ctx r s
    t :: turns ctx rest (t.stateAfter s)

/-- The state in which turns leave the device. -/
def stateAfterAll (turns : List (Turn σ)) (s : σ) : σ := turns.foldl (fun s t => t.stateAfter s) s

/-- Every routine of the `table` has one turn, in its order. -/
theorem map_routine_turns (ctx : ScrapeContext) (table : List Routine) (s : σ) :
    (turns device ctx table s).map (·.routine) = table := by
  induction table generalizing s with
  | nil => rfl
  | cons r rest ih => simp [turns, ih, turn]

/-- `Routine.run` does what the `turn` of the routine tells. -/
theorem run_routine (ctx : ScrapeContext) (r : Routine) (s : σ) :
    (r.run ctx).run device s =
      let t := turn device ctx r s
      ⟨t.outcome, t.stateAfter s, t.calls, t.notes ++ t.verdict⟩ := by
  cases hsupport : r.isSupported ctx.firmware with
  | true =>
    -- The body is played, and only its end decides what is noted after it.
    rw [Routine.run_eq r ctx hsupport, Routine.attempt, Dialogue.run_bind]
    cases hbody : ((r.collect ctx).run.run device s).value with
    | ok samples =>
      simp [turn, hsupport, hbody, Turn.outcome, Turn.stateAfter, Turn.calls, Turn.notes,
        Turn.verdict]
    | error cause =>
      simp [turn, hsupport, hbody, Turn.outcome, Turn.stateAfter, Turn.calls, Turn.notes,
        Turn.verdict, Dialogue.run]
  | false =>
    -- The gate is looked at before the body: nothing is asked and the state stays.
    cases hsince : r.since with
    | none => simp [Routine.isSupported, hsince] at hsupport
    | some least =>
      have hmeets : Firmware.meets ctx.firmware least = false := by
        simpa [Routine.isSupported, hsince] using hsupport
      simp [Routine.run, hsince, hmeets, turn, hsupport, Turn.outcome, Turn.stateAfter, Turn.calls,
        Turn.notes, Turn.verdict, Dialogue.run]

/-- `runAll` does what the `turns` tell, and the report takes their outcomes in. -/
theorem run_runAll (ctx : ScrapeContext) (report : ScrapeReport) (table : List Routine) (s : σ) :
    (runAll ctx report table).run device s =
      let ts := turns device ctx table s
      ⟨report.addTurns ts, stateAfterAll ts s, ts.flatMap (·.calls),
        ts.flatMap fun t => t.notes ++ t.verdict⟩ := by
  induction table generalizing report s with
  | nil => rfl
  | cons r rest ih =>
    -- The rest runs in the state after the first turn, with its outcome in the report.
    rw [runAll, Dialogue.run_bind, run_routine]
    simp only [ih, turns, ScrapeReport.addTurns_cons, stateAfterAll, List.foldl_cons,
      List.flatMap_cons]
    rfl

/-- `resolve` asks for the status, once, and for nothing else. -/
theorem calls_resolve (options : ProbeOptions) (s : σ) :
    ((resolve options).run device s).calls = [⟨SystemStatus.path, ""⟩] := by
  have hask : (askStatus.run device s).calls = [⟨SystemStatus.path, ""⟩] := by
    simp only [askStatus, Dialogue.run_bind, Collection.run_fetch]
    split
    · rfl
    · rfl
  simp [resolve, Dialogue.run_bind, hask]

/-- The turns of a whole scrape. -/
def turnsOf (table : List Routine) (options : ProbeOptions) (s : σ) : List (Turn σ) :=
  let start := (resolve options).run device s
  turns device start.value (chosen options table) start.state

/-- `scrapeWith` settles its context, gives every chosen routine its turn and notes the end. -/
theorem run_scrapeWith (table : List Routine) (options : ProbeOptions) (s : σ) :
    (scrapeWith table options).run device s =
      let start := (resolve options).run device s
      let ts := turnsOf device table options s
      let report := ({ firmware := start.value.firmware } : ScrapeReport).addTurns ts
      ⟨report, stateAfterAll ts start.state, start.calls ++ ts.flatMap (·.calls),
        start.events ++ (ts.flatMap fun t => t.notes ++ t.verdict) ++ [finishedEvent report]⟩ := by
  simp only [scrapeWith, Dialogue.run_bind, run_runAll, turnsOf, Dialogue.run, List.append_nil,
    List.append_assoc]

end Scrape
end FirewallProbe
