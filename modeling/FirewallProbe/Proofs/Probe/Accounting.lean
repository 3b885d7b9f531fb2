import Mathlib.Algebra.BigOperators.Group.List.Basic
import Mathlib.Algebra.Ring.Int.Defs
import FirewallProbe.Probe.Run
import FirewallProbe.Proofs.Scrape.CallTrace

/-!
# Every probe is accounted for

Probes start, come to an end and are dropped in any order, any number of them at a time.  A ledger
keeps the exporter's own metrics beside the probes that were started.  In every ledger that can be
reached the metrics are what counting the probes gives.

A step of a probe is a list of changes of single metrics.  Each change raises at most one counter by
one, so the order in which the changes of several probes are made is of no account: once all of them
are made, the metrics are the same.

## Key results

- `Telemetry.step_eq`: a step of a probe is a list of changes
- `Accounts.step`: what is accounted for stays accounted for
- `accounts_of_underway`: the changes of several probes may be made in any order
- `ProbeLedger.telemetry_accounts`: what the metrics say in every ledger that can be reached
-/

namespace FirewallProbe

/-! ## Changes of single metrics -/

/-- A counter of the exporter, by what it counts. -/
inductive TelemetryCounter where
  | outcome (outcome : ProbeOutcome)
  | durations
  | failures (routine : String)
  deriving DecidableEq

/-- One change of the exporter's own metrics. -/
inductive TelemetryChange where
  | entered
  | left
  | failed (routine : String)
  | ended (outcome : ProbeOutcome)
  | timed (seconds : Float)

namespace TelemetryChange

/-- Whether a change raises a counter. -/
def raises (k : TelemetryCounter) : TelemetryChange → Bool
  | entered | left => false
  | failed routine => k = .failures routine
  | ended outcome => k = .outcome outcome
  | timed _ => k = .durations

/-- By how much a change moves the number of probes under way, which may also fall. -/
def shift : TelemetryChange → Int
  | entered => 1
  | left => -1
  | _ => 0

end TelemetryChange

/-- The changes of a step, in the order in which they are made. -/
def ProbeStep.changes : ProbeStep → List TelemetryChange
  | start => [.entered]
  | finish run =>
    run.ended.failedRoutines.map .failed ++
      [.ended run.ended.outcome, .timed (Exposition.secondsOf run.elapsed), .left]
  | drop => [.left]

namespace Telemetry

/-- What a counter says. -/
def reading (t : Telemetry) : TelemetryCounter → Nat
  | .outcome outcome => t.probes.get outcome
  | .durations => t.durations.count
  | .failures routine => t.failuresOf routine

/-- Makes one change. -/
def apply (t : Telemetry) : TelemetryChange → Telemetry
  | .entered => t.startProbe
  | .left => t.endProbe
  | .failed routine => t.routineFailed routine
  | .ended outcome => { t with probes := t.probes.add outcome }
  | .timed seconds => { t with durations := t.durations.observe seconds }

/-- Makes changes one after the other. -/
def applyAll (t : Telemetry) (changes : List TelemetryChange) : Telemetry := changes.foldl apply t

theorem applyAll_append (t : Telemetry) (xs ys : List TelemetryChange) :
    t.applyAll (xs ++ ys) = (t.applyAll xs).applyAll ys :=
  List.foldl_append

/-- `step` makes the changes of the step, in their order. -/
theorem step_eq (t : Telemetry) (s : ProbeStep) : t.step s = t.applyAll s.changes := by
  cases s with
  | start => rfl
  | drop => rfl
  | finish run =>
    rw [ProbeStep.changes, applyAll_append, applyAll, applyAll, List.foldl_map]
    rfl

/-- A change raises the counters that it `raises` by one, and leaves the others. -/
theorem reading_apply (t : Telemetry) (c : TelemetryChange) (k : TelemetryCounter) :
    (t.apply c).reading k = t.reading k + if c.raises k then 1 else 0 := by
  cases c with
  | failed routine =>
    cases k with
    | failures other =>
      simp [apply, reading, TelemetryChange.raises, failuresOf_routineFailed, eq_comm]
    | _ => rfl
  | ended outcome =>
    cases k with
    | outcome other => simp [apply, reading, TelemetryChange.raises, OutcomeCounts.get_add, eq_comm]
    | _ => rfl
  | _ => cases k <;> rfl

/-- A counter counts the changes that raise it. -/
theorem reading_applyAll (t : Telemetry) (changes : List TelemetryChange) (k : TelemetryCounter) :
    (t.applyAll changes).reading k = t.reading k + changes.countP (·.raises k) := by
  induction changes generalizing t with
  | nil => rfl
  | cons c rest ih =>
    have hrest := ih (t.apply c)
    rw [reading_apply] at hrest
    rw [List.countP_cons, ← Nat.add_assoc, Nat.add_right_comm]
    exact hrest

/-- `inFlight` is moved by the sum of the shifts. -/
theorem inFlight_applyAll (t : Telemetry) (changes : List TelemetryChange) :
    (t.applyAll changes).inFlight = t.inFlight + (changes.map (·.shift)).sum := by
  induction changes generalizing t with
  | nil => simp [applyAll]
  | cons c rest ih =>
    have hfirst : (t.apply c).inFlight = t.inFlight + c.shift := by
      cases c <;> simp [apply, TelemetryChange.shift, startProbe, endProbe, routineFailed,
        Int.sub_eq_add_neg]
    rw [List.map_cons, List.sum_cons, ← Int.add_assoc, ← hfirst]
    exact ih (t.apply c)

end Telemetry

/-! ## Ends of probes -/

namespace ProbeEnd

/-- A report that a probe ends with is that of a scrape, of whatever device. -/
def IsPossible : ProbeEnd → Prop
  | reported report _ => ∃ (σ : Type) (device : Device σ) (options : ProbeOptions) (s : σ),
      report = ((scrape options).run device s).value
  | _ => True

/-- Whether a probe ended with a report that tells of the failure of a routine. -/
def tellsFailureOf (routine : String) : ProbeEnd → Bool
  | reported report _ => report.routines.any fun r => r.name = routine && !r.isOk
  | _ => false

/-- `failedRoutines` names the routines of whose failure the report tells. -/
theorem mem_failedRoutines_iff (e : ProbeEnd) (routine : String) :
    routine ∈ e.failedRoutines ↔ e.tellsFailureOf routine = true := by
  cases e with
  | reported report late =>
    simp only [failedRoutines, tellsFailureOf, List.mem_map, List.mem_filter, List.any_eq_true,
      Bool.and_eq_true, decide_eq_true_eq]
    exact exists_congr fun r => ⟨fun h => ⟨h.1.1, h.2, h.1.2⟩, fun h => ⟨⟨h.1, h.2.2⟩, h.2.1⟩⟩
  | _ => simp [failedRoutines, tellsFailureOf]

/-- A routine appears once in the report of a scrape, so `failedRoutines` names it at most once. -/
theorem nodup_failedRoutines {e : ProbeEnd} (h : e.IsPossible) : e.failedRoutines.Nodup := by
  cases e with
  | reported report late =>
    obtain ⟨σ, device, options, s, rfl⟩ := h
    have hnames : (((scrape options).run device s).value.routines.map (·.name)).Nodup := by
      rw [Scrape.map_name_routines_scrape]
      exact Scrape.nodup_names_routineTable.sublist (List.filter_sublist.map _)
    exact hnames.sublist (List.filter_sublist.map _)
  | _ => exact List.nodup_nil

/-- `outcome` is success for a report that is in order, also when it comes late. -/
theorem outcome_eq_success_iff (e : ProbeEnd) :
    e.outcome = .success ↔ ∃ report late, e = .reported report late ∧ report.isOk = true := by
  cases e with
  | reported report late => cases hok : report.isOk <;> cases late <;> simp [outcome, hok]
  | _ => simp [outcome]

end ProbeEnd

/-! ## Probes that were started -/

/-- What has become of a probe that was started. -/
inductive ProbeCall where
  | running
  | finished (run : ProbeRun)
  | dropped

namespace ProbeCall

/-- Whether a probe is still under way. -/
def isRunning : ProbeCall → Bool
  | running => true
  | _ => false

/-- The end of a probe that was not dropped. -/
def run? : ProbeCall → Option ProbeRun
  | finished run => some run
  | _ => none

/-- Whether a probe counts for a counter. -/
def countsFor (k : TelemetryCounter) : ProbeCall → Bool
  | finished run =>
    match k with
    | .outcome outcome => run.ended.outcome = outcome
    | .durations => true
    | .failures routine => run.ended.tellsFailureOf routine
  | _ => false

/-- One step of one of the probes. -/
inductive Moves : List ProbeCall → ProbeStep → List ProbeCall → Prop
  | start (calls : List ProbeCall) : Moves calls .start (calls ++ [running])
  | finish {calls : List ProbeCall} {i : Nat} {run : ProbeRun}
    (hrunning : calls[i]? = some running) (hrun : run.ended.IsPossible) :
    Moves calls (.finish run) (calls.set i (finished run))
  | drop {calls : List ProbeCall} {i : Nat} (hrunning : calls[i]? = some running) :
    Moves calls .drop (calls.set i dropped)

end ProbeCall

/-- The end of a probe raises just the counters for which the probe counts, each of them once. -/
theorem countP_changes {run : ProbeRun} (h : run.ended.IsPossible) (k : TelemetryCounter) :
    (ProbeStep.finish run).changes.countP (·.raises k) =
      if (ProbeCall.finished run).countsFor k then 1 else 0 := by
  rw [ProbeStep.changes, List.countP_append, List.countP_map]
  cases k with
  | failures routine =>
    have hcount : run.ended.failedRoutines.countP (TelemetryChange.raises (.failures routine) ∘
        .failed) = run.ended.failedRoutines.count routine :=
      List.countP_congr fun other _ => by simp [TelemetryChange.raises, eq_comm (a := other)]
    rw [hcount, (ProbeEnd.nodup_failedRoutines h).count,
      if_congr (ProbeEnd.mem_failedRoutines_iff _ _) rfl rfl]
    rfl
  | _ =>
    simp [TelemetryChange.raises, ProbeCall.countsFor, Function.comp_def, List.countP_cons, eq_comm]

/-- What `countP` loses and gains when `b` takes the place of the member `a`. -/
private theorem countP_set_of_getElem? {α : Type u} (p : α → Bool) {l : List α} {i : Nat} {a : α}
    (h : l[i]? = some a) (b : α) :
    (l.set i b).countP p + (if p a then 1 else 0) = l.countP p + if p b then 1 else 0 := by
  obtain ⟨hi, rfl⟩ := List.getElem?_eq_some_iff.1 h
  have hle : (if p l[i] then 1 else 0) ≤ l.countP p := by
    split
    next hp => exact List.countP_pos_iff.2 ⟨_, List.getElem_mem hi, hp⟩
    next => exact Nat.zero_le _
  rw [List.countP_set hi]
  omega

namespace ProbeCall.Moves

variable {calls calls' : List ProbeCall} {s : ProbeStep}

/-- The number of calls with `isRunning` moves as the changes of the step say. -/
theorem countP_isRunning (h : Moves calls s calls') :
    (calls'.countP isRunning : Int) = calls.countP isRunning + (s.changes.map (·.shift)).sum := by
  cases h with
  | start => simp [ProbeStep.changes, TelemetryChange.shift, isRunning]
  | @finish i run hrunning hrun =>
    -- The end of a probe takes one from the running ones, and the changes say so.
    have hset := countP_set_of_getElem? isRunning hrunning (finished run)
    have hshift : ((ProbeStep.finish run).changes.map (·.shift)).sum = -1 := by
      simp [ProbeStep.changes, TelemetryChange.shift, Function.comp_def]
    simp only [isRunning, if_true, Bool.false_eq_true, if_false] at hset
    omega
  | @drop i hrunning =>
    have hset := countP_set_of_getElem? isRunning hrunning dropped
    have hshift : (ProbeStep.drop.changes.map (·.shift)).sum = -1 := rfl
    simp only [isRunning, if_true, Bool.false_eq_true, if_false] at hset
    omega

/-- For each counter `k`, as many calls are added that count for `k` as the changes of the step
raise it. -/
theorem countP_countsFor (h : Moves calls s calls') (k : TelemetryCounter) :
    calls'.countP (countsFor k) = calls.countP (countsFor k) + s.changes.countP (·.raises k) := by
  cases h with
  | start => simp [ProbeStep.changes, TelemetryChange.raises, countsFor]
  | @finish i run hrunning hrun =>
    rw [countP_changes hrun, ← countP_set_of_getElem? _ hrunning]
    rfl
  | @drop i hrunning =>
    have hset := countP_set_of_getElem? (countsFor k) hrunning dropped
    exact hset

end ProbeCall.Moves

/-! ## Accounts -/

/-- The exporter's own metrics are what counting the probes gives. -/
structure Accounts (t : Telemetry) (calls : List ProbeCall) : Prop where
  inFlight : t.inFlight = calls.countP ProbeCall.isRunning
  reading : ∀ k, t.reading k = calls.countP (ProbeCall.countsFor k)

namespace Accounts

variable {t : Telemetry} {calls calls' : List ProbeCall} {s : ProbeStep}

/-- Before the first probe there is nothing to account for. -/
theorem init : Accounts {} [] where
  inFlight := rfl
  reading k := by cases k with
    | outcome outcome => cases outcome <;> rfl
    | _ => rfl

/-- A move of one of the probes keeps the accounts, if the telemetry makes the same step. -/
theorem step (h : Accounts t calls) (hmoves : ProbeCall.Moves calls s calls') :
    Accounts (t.step s) calls' where
  inFlight := by
    rw [Telemetry.step_eq, Telemetry.inFlight_applyAll, h.inFlight, hmoves.countP_isRunning]
  reading k := by
    rw [Telemetry.step_eq, Telemetry.reading_applyAll, h.reading, hmoves.countP_countsFor]

/-- The order in which changes are made is of no account. -/
theorem of_perm {xs ys : List TelemetryChange} (h : Accounts (t.applyAll xs) calls)
    (hperm : xs.Perm ys) : Accounts (t.applyAll ys) calls where
  inFlight := by
    rw [← h.inFlight, Telemetry.inFlight_applyAll, Telemetry.inFlight_applyAll,
      (hperm.map _).sum_eq]
  reading k := by
    rw [← h.reading, Telemetry.reading_applyAll, Telemetry.reading_applyAll, hperm.countP_eq]

end Accounts

/-- Probes move on while changes of theirs are still due; of these, any may be made next. -/
inductive Underway : Telemetry → List ProbeCall → List TelemetryChange → Prop
  | init : Underway {} [] []
  | move {t : Telemetry} {calls calls' : List ProbeCall} {due : List TelemetryChange}
    {s : ProbeStep} (h : Underway t calls due) (hmoves : ProbeCall.Moves calls s calls') :
    Underway t calls' (due ++ s.changes)
  | change {t : Telemetry} {calls : List ProbeCall} {c : TelemetryChange}
    {front back : List TelemetryChange} (h : Underway t calls (front ++ c :: back)) :
    Underway (t.apply c) calls (front ++ back)

/-- The metrics lag behind the probes by the changes that are `due` and by nothing else, whatever
the order in which changes of different probes are made.  The induction is on how `Underway` came
about, with `due` still to be applied. -/
theorem accounts_of_underway {t : Telemetry} {calls : List ProbeCall} {due : List TelemetryChange}
    (h : Underway t calls due) : Accounts (t.applyAll due) calls := by
  induction h with
  | init => exact .init
  | move _ hmoves ih =>
    rw [Telemetry.applyAll_append, ← Telemetry.step_eq]
    exact ih.step hmoves
  | change _ ih => exact ih.of_perm List.perm_middle

/-! ## Ledgers -/

/-- The exporter's own metrics beside the probes that were started. -/
structure ProbeLedger where
  telemetry : Telemetry := {}
  calls : List ProbeCall := []

namespace ProbeLedger

/-- A ledger to which some sequence of steps of any number of probes leads. -/
inductive Reachable : ProbeLedger → Prop
  | init : Reachable {}
  | step {l : ProbeLedger} {s : ProbeStep} {calls : List ProbeCall} (h : Reachable l)
    (hmoves : ProbeCall.Moves l.calls s calls) : Reachable ⟨l.telemetry.step s, calls⟩

/-- The probes that came to an end and were not dropped. -/
def runs (l : ProbeLedger) : List ProbeRun := l.calls.filterMap ProbeCall.run?

variable {l : ProbeLedger}

/-- The accounts hold in every ledger that is reached, by induction on the moves that lead to it. -/
theorem Reachable.accounts (h : l.Reachable) : Accounts l.telemetry l.calls := by
  induction h with
  | init => exact .init
  | step _ hmoves ih => exact ih.step hmoves

/-- Only a probe that came to an end counts for a counter. -/
theorem countP_countsFor (l : ProbeLedger) (k : TelemetryCounter) :
    l.calls.countP (ProbeCall.countsFor k) =
      l.runs.countP fun run => (ProbeCall.finished run).countsFor k := by
  rw [runs, List.countP_filterMap]
  refine List.countP_congr fun call _ => ?_
  cases call <;> simp [ProbeCall.run?, ProbeCall.countsFor]

/-- Every probe that came to an end has one of the three outcomes. -/
theorem sum_countP_outcome (runs : List ProbeRun) :
    (runs.countP fun run => run.ended.outcome = .success) +
      (runs.countP fun run => run.ended.outcome = .failure) +
      (runs.countP fun run => run.ended.outcome = .timeout) = runs.length := by
  induction runs with
  | nil => rfl
  | cons run rest ih =>
    simp only [List.countP_cons, List.length_cons, ← ih]
    cases run.ended.outcome <;> simp <;> omega

/-- In every ledger that can be reached, `inFlight` is the number of the probes that were started
and have neither come to an end nor been dropped.  The outcomes add up to the number of durations,
which is that of the probes that came to an end; each outcome is counted once for each probe with
it, and success for the reports that are in order.  A failure of a routine is counted once for each
probe whose report tells of it. -/
theorem telemetry_accounts (h : l.Reachable) :
    let t := l.telemetry
    (t.inFlight = l.calls.countP ProbeCall.isRunning ∧ 0 ≤ t.inFlight ∧
      ((∀ call ∈ l.calls, call.isRunning = false) → t.inFlight = 0)) ∧
    (t.probes.get .success + t.probes.get .failure + t.probes.get .timeout = t.durations.count ∧
      t.durations.count = l.runs.length) ∧
    (∀ outcome, t.probes.get outcome = l.runs.countP fun run => run.ended.outcome = outcome) ∧
    (∀ run ∈ l.runs, run.ended.outcome = .success ↔
      ∃ report late, run.ended = .reported report late ∧ report.isOk = true) ∧
    ∀ routine,
      t.failuresOf routine = l.runs.countP fun run => run.ended.tellsFailureOf routine := by
  intro t
  -- Each counter is read off the accounts once, and then specialised.
  have hreading : ∀ k,
      t.reading k = l.runs.countP fun run => (ProbeCall.finished run).countsFor k :=
    fun k => (h.accounts.reading k).trans (l.countP_countsFor k)
  have hflight : t.inFlight = l.calls.countP ProbeCall.isRunning := h.accounts.inFlight
  have houtcome : ∀ outcome, t.probes.get outcome =
      l.runs.countP fun run => run.ended.outcome = outcome :=
    fun outcome => hreading (.outcome outcome)
  have hdurations : t.durations.count = l.runs.length :=
    (hreading .durations).trans (congrFun List.countP_true l.runs)
  refine ⟨⟨hflight, ?_, fun hnone => ?_⟩, ⟨?_, hdurations⟩, houtcome,
    fun run _ => run.ended.outcome_eq_success_iff, fun routine => hreading (.failures routine)⟩
  · rw [hflight]
    exact Int.natCast_nonneg _
  · rw [hflight, List.countP_eq_zero.2 fun call hcall => by simp [hnone call hcall]]
    rfl
  · rw [houtcome, houtcome, houtcome, sum_countP_outcome, hdurations]

/-- Three probes of which the first ends late with a report of a silent device while the second is
under way, and the second is dropped while the third is. -/
theorem telemetry_accounts_overlapping :
    let silent : ProbeRun :=
      ⟨.reported (Scrape.reportOf (fun e => .error (.timeout e.path)) {}) true, .ofSeconds 20⟩
    let l : ProbeLedger :=
      ⟨({} : Telemetry).steps [.start, .start, .finish silent, .start, .drop],
        [.finished silent, .dropped, .running]⟩
    l.Reachable ∧ l.telemetry.inFlight = 1 ∧ l.telemetry.durations.count = 1 ∧
      l.telemetry.probes.get .timeout = 1 ∧ l.telemetry.failuresOf "interfaces" = 1 := by
  intro silent l
  have hreachable : ∀ run : ProbeRun, run.ended.IsPossible →
      Reachable ⟨({} : Telemetry).steps [.start, .start, .finish run, .start, .drop],
        [.finished run, .dropped, .running]⟩ := by
    intro run hrun
    have hended := ((Reachable.init.step (.start _)).step (.start _)).step
      (.finish (i := 0) rfl hrun)
    exact (hended.step (.start _)).step (.drop (i := 1) rfl)
  have hl : l.Reachable := hreachable silent ⟨Unit, _, {}, (), rfl⟩
  have hruns : l.runs = [silent] := rfl
  have hsilent : silent.ended.tellsFailureOf "interfaces" = true := by decide +kernel
  have htimeout : silent.ended.outcome = .timeout := by decide +kernel
  obtain ⟨⟨hflight, -⟩, ⟨-, hdurations⟩, houtcome, -, hfailures⟩ := telemetry_accounts hl
  refine ⟨hl, hflight, hdurations, ?_, ?_⟩
  · rw [houtcome, hruns]
    simp [htimeout]
  · rw [hfailures, hruns]
    simp [hsilent]

end ProbeLedger
end FirewallProbe
