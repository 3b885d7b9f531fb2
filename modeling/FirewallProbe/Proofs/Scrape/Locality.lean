import Mathlib.Data.List.SplitLengths
import FirewallProbe.Proofs.FirstOfEach
import FirewallProbe.Proofs.Scrape.Turns
import FirewallProbe.RoutineTable

/-!
# Routines do not influence each other

What a scrape reports about a routine depends on the answer to the status question and on the
answers that the routine itself obtained.  A scrape of fewer routines reports the same about those
that are left.

## Key results

- `parts_addTurns`: a report is cut into the blocks of its routines by their counts
- `collect_congr`: no routine of the table looks at the filter
- `turn_congr`: a turn depends on the status and on the answers to its own questions
-/

namespace FirewallProbe

/-- What a report says about one routine. -/
structure ReportPart where
  name : String
  label : String
  isOk : Bool
  count : Nat
  samples : List Sample

namespace ScrapeReport

/-- A report cut into parts: each entry with as many samples as it counts. -/
def parts (report : ScrapeReport) : List ReportPart :=
  List.zipWith (fun e samples => ⟨e.name, e.label, e.isOk, e.count, samples⟩) report.routines
    ((report.routines.map (·.count)).splitLengths report.samples)

/-- The parts about routines of one name. -/
def partsNamed (report : ScrapeReport) (name : String) : List ReportPart :=
  report.parts.filter fun p => p.name = name

/-- A report with the entries and samples of some routines only. -/
def restrict (report : ScrapeReport) (keep : String → Bool) : ScrapeReport :=
  let routines := report.routines.filter fun e => keep e.name
  { firmware := report.firmware
    samples := (report.parts.filter fun p => keep p.name).flatMap (·.samples)
    isOk := routines.all (·.isOk)
    routines }

end ScrapeReport

variable {σ : Type}

/-- The part of a turn in a report. -/
def Turn.part (t : Turn σ) : ReportPart :=
  ⟨t.routine.name, t.label, t.entry.isOk, t.block.length, t.block⟩

namespace ScrapeReport

/-- The counts of a report cut its samples where one turn ends and the next begins. -/
theorem parts_addTurns (firmware : Option Firmware) (ts : List (Turn σ)) :
    (addTurns { firmware } ts).parts = ts.map (·.part) := by
  simp only [parts, addTurns_eq, List.nil_append]
  induction ts with
  | nil => rfl
  | cons t rest ih =>
    have hcount : t.entry.count = t.block.length := rfl
    -- The first count takes the first block off and leaves the others.
    simp only [List.map_cons, List.flatMap_cons, List.splitLengths_cons, hcount, List.take_left,
      List.drop_left, List.zipWith_cons_cons, ih]
    rfl

/-- To leave turns out by their names is to `restrict` the report. -/
theorem restrict_addTurns (firmware : Option Firmware) (ts : List (Turn σ))
    (keep : String → Bool) :
    (addTurns { firmware } ts).restrict keep =
      addTurns { firmware } (ts.filter fun t => keep t.routine.name) := by
  have hparts : (ts.map (·.part)).filter (fun p => keep p.name) =
      (ts.filter fun t => keep t.routine.name).map (·.part) := List.filter_map
  have hentries : (ts.map (·.entry)).filter (fun e => keep e.name) =
      (ts.filter fun t => keep t.routine.name).map (·.entry) := List.filter_map
  rw [restrict, parts_addTurns, addTurns_eq, addTurns_eq]
  simp only [List.nil_append, hparts, hentries, List.flatMap_map, List.all_map, Bool.true_and]
  rfl

end ScrapeReport

namespace Scrape

/-! ## The context of a scrape -/

/-- The context that `resolve` settles for a device without memory. -/
def contextOf (f : Endpoint → Answer) (options : ProbeOptions) : ScrapeContext :=
  ((resolve options).run (.ofFunction f) ()).value

/-- The `options` do not change what is found out about the device. -/
theorem contextOf_options (f : Endpoint → Answer) (options : ProbeOptions) :
    contextOf f options = { contextOf f {} with options } := by
  simp [contextOf, resolve, Dialogue.run_bind]

/-- `contextOf` depends on the answer to the status question only. -/
theorem contextOf_congr {f g : Endpoint → Answer}
    (h : f ⟨SystemStatus.path, ""⟩ = g ⟨SystemStatus.path, ""⟩) (options : ProbeOptions) :
    contextOf g options = contextOf f options := by
  unfold contextOf
  rw [Dialogue.run_ofFunction_congr]
  rw [calls_resolve]
  simpa using h

/-! ## Turns -/

/-- No routine of the table looks at the filter `F`. -/
theorem collect_congr {r : Routine} (hr : r ∈ routineTable) (ctx : ScrapeContext)
    (F : RoutineFilter) :
    r.collect { ctx with options := ⟨ctx.options.maxBgpPaths, F⟩ } = r.collect ctx := by
  simp only [routineTable, List.mem_cons, List.not_mem_nil, or_false] at hr
  rcases hr with rfl | rfl | rfl | rfl | rfl | rfl | rfl | rfl | rfl | rfl | rfl | rfl | rfl |
    rfl | rfl | rfl | rfl | rfl | rfl | rfl | rfl | rfl <;> rfl

/-- No two routines of `routineTable` have one name. -/
theorem nodup_names_routineTable : (routineTable.map (·.name)).Nodup := by decide

/-- The turn of a routine depends on the status and on the answers to what the routine asks with
`f`. -/
theorem turn_congr {f g : Endpoint → Answer} {n : Nat} {F₁ F₂ : RoutineFilter} {r : Routine}
    (hr : r ∈ routineTable) (hstatus : f ⟨SystemStatus.path, ""⟩ = g ⟨SystemStatus.path, ""⟩)
    (hcalls : ∀ e ∈ (turn (.ofFunction f) (contextOf f ⟨n, F₁⟩) r ()).calls, f e = g e) :
    turn (.ofFunction g) (contextOf g ⟨n, F₂⟩) r () =
      turn (.ofFunction f) (contextOf f ⟨n, F₁⟩) r () := by
  rw [contextOf_congr hstatus, contextOf_options f ⟨n, F₂⟩]
  rw [contextOf_options f ⟨n, F₁⟩] at hcalls ⊢
  have hcollect : r.collect { contextOf f {} with options := ⟨n, F₂⟩ } =
      r.collect { contextOf f {} with options := ⟨n, F₁⟩ } :=
    collect_congr hr { contextOf f {} with options := ⟨n, F₁⟩ } F₂
  unfold turn at hcalls ⊢
  rw [hcollect]
  -- Both scrapes decide alike whether the body is played, and then play the same body.
  cases hsupport : r.isSupported (contextOf f {}).firmware with
  | false => simp
  | true =>
    simp only [hsupport, if_true, Turn.calls, Option.map_some, Option.getD_some] at hcalls ⊢
    rw [Dialogue.run_ofFunction_congr _ hcalls]

/-- Against a device without memory every turn can be looked at alone. -/
theorem turnsOf_ofFunction (f : Endpoint → Answer) (table : List Routine)
    (options : ProbeOptions) :
    turnsOf (.ofFunction f) table options () =
      (chosen options table).map fun r => turn (.ofFunction f) (contextOf f options) r () := by
  show turns (.ofFunction f) (contextOf f options) (chosen options table) () = _
  induction chosen options table with
  | nil => rfl
  | cons r rest ih => rw [turns, List.map_cons, ← ih]

/-- The report of a scrape of a device without memory. -/
def reportOf (f : Endpoint → Answer) (options : ProbeOptions) : ScrapeReport :=
  ((scrape options).run (.ofFunction f) ()).value

/-- `reportOf` takes in the turns of the chosen routines. -/
theorem reportOf_eq (f : Endpoint → Answer) (options : ProbeOptions) :
    reportOf f options =
      .addTurns { firmware := (contextOf f options).firmware }
        (turnsOf (.ofFunction f) routineTable options ()) := by
  rw [reportOf, scrape, run_scrapeWith]
  rfl

/-- The only part of a report about the routine `r` is that of its `turn`. -/
theorem partsNamed_reportOf (f : Endpoint → Answer) {options : ProbeOptions} {r : Routine}
    (hr : r ∈ routineTable) (h : options.routines.allows r.name = true) :
    (reportOf f options).partsNamed r.name =
      [(turn (.ofFunction f) (contextOf f options) r ()).part] := by
  have hmem : r ∈ chosen options routineTable := List.mem_filter.2 ⟨hr, h⟩
  have hnodup : ((chosen options routineTable).map (·.name)).Nodup :=
    nodup_names_routineTable.sublist (List.filter_sublist.map _)
  have honly := List.filter_key_eq_singleton hnodup hmem
  rw [ScrapeReport.partsNamed, reportOf_eq, ScrapeReport.parts_addTurns, turnsOf_ofFunction,
    List.map_map, List.filter_map]
  exact congrArg (List.map _) honly

/-- A scrape with the filter `F` is the restriction of the scrape without one. -/
theorem reportOf_restrict (f : Endpoint → Answer) (n : Nat) (F : RoutineFilter) :
    reportOf f ⟨n, F⟩ = (reportOf f ⟨n, {}⟩).restrict F.allows := by
  have hall : chosen ⟨n, {}⟩ routineTable = routineTable :=
    List.filter_eq_self.2 fun r _ => rfl
  -- A turn is the same with the filter and without it.
  have hturns : turnsOf (.ofFunction f) routineTable ⟨n, F⟩ () =
      (turnsOf (.ofFunction f) routineTable ⟨n, {}⟩ ()).filter
        fun t => F.allows t.routine.name := by
    rw [turnsOf_ofFunction, turnsOf_ofFunction, hall, List.filter_map]
    refine List.map_congr_left fun r hr => ?_
    exact turn_congr (List.mem_of_mem_filter hr) rfl fun _ _ => rfl
  have hfirmware : (contextOf f ⟨n, F⟩).firmware = (contextOf f ⟨n, {}⟩).firmware := by
    rw [contextOf_options f ⟨n, F⟩, contextOf_options f ⟨n, {}⟩]
  rw [reportOf_eq, reportOf_eq, ScrapeReport.restrict_addTurns, hturns, hfirmware]

/-- Two scrapes report the same about the routine `r`, in one entry, if the devices `f` and `g`
agree on the status and on what `r` asked in the first one, whatever else they answer and whatever
else runs.  In particular a filter only leaves routines out. -/
theorem partsNamed_local {f g : Endpoint → Answer} {n : Nat} {F₁ F₂ : RoutineFilter}
    {r : Routine} (hr : r ∈ routineTable) (h₁ : F₁.allows r.name = true)
    (h₂ : F₂.allows r.name = true)
    (hstatus : f ⟨SystemStatus.path, ""⟩ = g ⟨SystemStatus.path, ""⟩)
    (hcalls : ∀ t ∈ turnsOf (.ofFunction f) routineTable ⟨n, F₁⟩ (), t.routine.name = r.name →
      ∀ e ∈ t.calls, f e = g e) :
    (∃ part, (reportOf f ⟨n, F₁⟩).partsNamed r.name = [part] ∧
      (reportOf g ⟨n, F₂⟩).partsNamed r.name = [part]) ∧
    ∀ F : RoutineFilter, reportOf f ⟨n, F⟩ = (reportOf f ⟨n, {}⟩).restrict F.allows := by
  have hmem : turn (.ofFunction f) (contextOf f ⟨n, F₁⟩) r () ∈
      turnsOf (.ofFunction f) routineTable ⟨n, F₁⟩ () := by
    rw [turnsOf_ofFunction]
    exact List.mem_map_of_mem (List.mem_filter.2 ⟨hr, h₁⟩)
  have hturn : turn (.ofFunction g) (contextOf g ⟨n, F₂⟩) r () =
      turn (.ofFunction f) (contextOf f ⟨n, F₁⟩) r () :=
    turn_congr hr hstatus (hcalls _ hmem rfl)
  refine ⟨⟨_, partsNamed_reportOf f hr h₁, ?_⟩, reportOf_restrict f n⟩
  rw [partsNamed_reportOf g hr h₂, hturn]

/-- The answers of a table by path, and one answer for every other endpoint. -/
def answersFrom (table : List (String × Answer)) (other : Answer) : Endpoint → Answer :=
  fun e => (table.lookup e.path).getD other

/-- A tunnel is reported alike by a device on which everything else times out and by one whose other
answers cannot be read, in a scrape of everything and in one of tunnels only. -/
theorem partsNamed_local_tunnels :
    let status : String × Answer := ("monitor/system/status", .error (.timeout "status"))
    let tunnels : String × Answer := ("monitor/vpn/ipsec", .ok (.arr [.obj [
      ("results", .arr [.obj [
        ("name", .str "hq"), ("proxyid", .arr [.obj [("status", .str "up")]])]]),
      ("vdom", .str "root")]]))
    let only : RoutineFilter := ⟨[⟨[.literal 'i', .literal 'p', .anyRun]⟩], []⟩
    let down := answersFrom [status, tunnels] (.error (.timeout "other"))
    let odd := answersFrom [status, tunnels] (.ok .null)
    ∃ part, (reportOf down ⟨10, {}⟩).partsNamed IpsecTunnel.routine.name = [part] ∧
      (reportOf odd ⟨10, only⟩).partsNamed IpsecTunnel.routine.name = [part] ∧
      part.label = "collected" ∧ part.count = 6 := by
  intro status tunnels only down odd
  have hcalls : ∀ t ∈ turnsOf (.ofFunction down) routineTable ⟨10, {}⟩ (),
      t.routine.name = IpsecTunnel.routine.name →
        ∀ e ∈ t.calls, e.path = "monitor/vpn/ipsec" := by decide +kernel
  have hr : IpsecTunnel.routine ∈ routineTable := by simp [routineTable]
  have hall : RoutineFilter.allows {} IpsecTunnel.routine.name = true := rfl
  have honly : only.allows IpsecTunnel.routine.name = true := by decide +kernel
  have hagree : ∀ e : Endpoint, e.path = "monitor/vpn/ipsec" → down e = odd e := by
    intro e he
    simp only [down, odd, answersFrom, he]
    rfl
  have hstatus : down ⟨SystemStatus.path, ""⟩ = odd ⟨SystemStatus.path, ""⟩ := rfl
  obtain ⟨⟨part, hdown, hodd⟩, -⟩ := partsNamed_local hr hall honly hstatus
    fun t ht hname e he => hagree e (hcalls t ht hname e he)
  have hpart : ((reportOf down ⟨10, {}⟩).partsNamed IpsecTunnel.routine.name).map
      (fun p => (p.label, p.count)) = [("collected", 6)] := by decide +kernel
  rw [hdown] at hpart
  have hpair : (part.label, part.count) = ("collected", 6) := List.singleton_inj.1 hpart
  exact ⟨part, hdown, hodd, congrArg Prod.fst hpair, congrArg Prod.snd hpair⟩

end Scrape
end FirewallProbe
