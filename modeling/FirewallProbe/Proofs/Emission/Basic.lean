import FirewallProbe.FanOut
import FirewallProbe.Measurement
import FirewallProbe.Proofs.Scrape.Composition

/-!
# What routines emit

Samples come into being in two ways only: one of a family, or one for each state of a family.  A
`Catalog` lists families of both kinds, and `Emits` says of a list of samples that it is put
together from whole emissions of families of a catalog, with one value for each label name.

## Key results

- `Emits.append` / `emits_flatMap` / `emits_measurements`: how emissions are put together
- `Routine.staysIn_ofEndpoint`: a routine that asks one endpoint emits what its samples are made of
- `emits_samples_run`: the samples of a scrape are whole emissions
-/

namespace FirewallProbe

/-- A family with one sample for each of its known states and for `unknown`. -/
structure StateFamily where
  family : Family
  known : List String
  deriving DecidableEq

/-- The families that a routine may use. -/
structure Catalog where
  /-- Families of single samples. -/
  plain : List Family := []
  /-- Families of states. -/
  stateful : List StateFamily := []

namespace Catalog

/-- All families of a catalog, those in `plain` before those in `stateful`. -/
def families (c : Catalog) : List Family := c.plain ++ c.stateful.map (·.family)

/-- The families of several catalogs. -/
def join (cs : List Catalog) : Catalog := ⟨cs.flatMap (·.plain), cs.flatMap (·.stateful)⟩

end Catalog

/-- What is emitted at once. -/
inductive Emission where
  | single (family : Family) (value : Float) (labels : List String)
  | states (family : StateFamily) (labels : List String) (status : String)

namespace Emission

/-- The family that is emitted. -/
def family : Emission → Family
  | single f _ _ => f
  | states f _ _ => f.family

/-- The samples of an emission. -/
def samples : Emission → List Sample
  | single f value labels => [f.sample value labels]
  | states f labels status => f.family.samplePerState labels status f.known

/-- The family is in the catalog `c`, and the emission has a value for each of its label names. -/
def IsIn (c : Catalog) : Emission → Prop
  | single f _ labels => f ∈ c.plain ∧ labels.length = f.labels.length
  | states f labels _ => f ∈ c.stateful ∧ labels.length + 1 = f.family.labels.length

/-- An emission that `IsIn c` is of a family of `c`. -/
theorem IsIn.family_mem {c : Catalog} {e : Emission} (h : e.IsIn c) : e.family ∈ c.families := by
  cases e with
  | single f value labels => exact List.mem_append_left _ h.1
  | states f labels status => exact List.mem_append_right _ (List.mem_map_of_mem h.1)

/-- Every sample of an emission has the name of its `family` and all its label names. -/
theorem IsIn.of_mem_samples {c : Catalog} {e : Emission} (h : e.IsIn c) {s : Sample}
    (hs : s ∈ e.samples) :
    s.name = e.family.name ∧ s.labels.map (·.1) = e.family.labels := by
  cases e with
  | single f value labels =>
    rw [List.mem_singleton.1 hs]
    exact ⟨rfl, f.keys_sample value h.2⟩
  | states f labels status =>
    obtain ⟨⟨state, value⟩, _, rfl⟩ := List.mem_map.1 hs
    refine ⟨rfl, f.family.keys_sample value ?_⟩
    rw [List.length_append, List.length_singleton]
    exact h.2

end Emission

/-- The `samples` are put together from whole emissions of `c`. -/
def Emits (c : Catalog) (samples : List Sample) : Prop :=
  ∃ es : List Emission, (∀ e ∈ es, e.IsIn c) ∧ samples = es.flatMap (·.samples)

section Emits

variable {c : Catalog}

theorem emits_nil : Emits c [] := ⟨[], by simp, rfl⟩

/-- Two lists of whole emissions are one. -/
theorem Emits.append {xs ys : List Sample} (hx : Emits c xs) (hy : Emits c ys) :
    Emits c (xs ++ ys) := by
  obtain ⟨es, hes, rfl⟩ := hx
  obtain ⟨fs, hfs, rfl⟩ := hy
  refine ⟨es ++ fs, fun e he => ?_, by rw [List.flatMap_append]⟩
  rcases List.mem_append.1 he with he | he
  · exact hes e he
  · exact hfs e he

/-- Whole emissions for each of `as` are whole emissions. -/
theorem emits_flatMap {α : Type} {f : α → List Sample} {as : List α}
    (h : ∀ a ∈ as, Emits c (f a)) : Emits c (as.flatMap f) := by
  induction as with
  | nil => exact emits_nil
  | cons a rest ih =>
    rw [List.forall_mem_cons] at h
    exact h.1.append (ih h.2)

/-- A sample of a `plain` family with a value for each label is a whole emission. -/
theorem emits_single {f : Family} {value : Float} {labels : List String} (hf : f ∈ c.plain)
    (hlabels : labels.length = f.labels.length) : Emits c [f.sample value labels] :=
  ⟨[.single f value labels], by simpa using ⟨hf, hlabels⟩, rfl⟩

/-- `samplePerState` is a whole emission of a `stateful` family; the state is the last label. -/
theorem emits_states {f : StateFamily} {labels : List String} {status : String}
    (hf : f ∈ c.stateful) (hlabels : labels.length + 1 = f.family.labels.length) :
    Emits c (f.family.samplePerState labels status f.known) :=
  ⟨[.states f labels status], by simpa using ⟨hf, hlabels⟩, by simp [Emission.samples]⟩

/-- A value that may be missing is emitted or not. -/
theorem emits_toList {α : Type} {f : Family} {labels : List String} {value : α → Float}
    (a : Option α) (hf : f ∈ c.plain) (hlabels : labels.length = f.labels.length) :
    Emits c (a.map fun x => f.sample (value x) labels).toList := by
  cases a with
  | none => exact emits_nil
  | some x => exact emits_single hf hlabels

/-- `Measurement.samples` emits from the families of its `table`. -/
theorem emits_measurements {α : Type} {table : List (Measurement α)} {labels : List String} {a : α}
    (hplain : table.map (·.family) ⊆ c.plain)
    (hlabels : ∀ m ∈ table, m.family.labels.length = labels.length) :
    Emits c (Measurement.samples table labels a) := by
  induction table with
  | nil => exact emits_nil
  | cons m rest ih =>
    rw [List.map_cons, List.cons_subset] at hplain
    rw [List.forall_mem_cons] at hlabels
    have hrest := ih hplain.2 hlabels.2
    -- A measurement that the entity lacks leaves no gap in the others.
    cases hvalue : m.value? a with
    | none => simpa [Measurement.samples, Measurement.sample?, hvalue] using hrest
    | some value =>
      have hfirst : Emits c [m.family.sample value labels] :=
        emits_single hplain.1 hlabels.1.symm
      simpa [Measurement.samples, Measurement.sample?, hvalue] using hfirst.append hrest

/-- What one of the catalogs `cs` holds is held by `Catalog.join cs`. -/
theorem Emits.join {cs : List Catalog} (hc : c ∈ cs) {samples : List Sample}
    (h : Emits c samples) : Emits (.join cs) samples := by
  obtain ⟨es, hes, rfl⟩ := h
  refine ⟨es, fun e he => ?_, rfl⟩
  have hin := hes e he
  cases e with
  | single f value labels => exact ⟨List.mem_flatMap_of_mem hc hin.1, hin.2⟩
  | states f labels status => exact ⟨List.mem_flatMap_of_mem hc hin.1, hin.2⟩

end Emits

/-! ## Routines -/

/-- The body of a routine ends with whole emissions of `c`, whatever it is answered, and leaves it
to the scrape to tell that a routine failed. -/
def Routine.StaysIn (r : Routine) (c : Catalog) : Prop :=
  ∀ ctx, (r.collect ctx).Within (fun _ => True) (fun e => e.isFailureNotice = false) (Emits c)

namespace Routine

variable {c : Catalog} {α : Type}

/-- A routine with one endpoint stays in the catalog from which its `samples` are. -/
theorem staysIn_ofEndpoint {name path query : String} {since : Option Firmware}
    {decoder : Decoder α} {samples : α → List Sample} (h : ∀ a, Emits c (samples a)) :
    (ofEndpoint name since decoder path query samples).StaysIn c := fun _ =>
  (Collection.within_fetch decoder trivial).bind fun a _ => Collection.within_pure (h a)

/-- A routine with one endpoint may note events, but none about a failure. -/
theorem staysIn_ofEndpointLogged {name path query : String} {since : Option Firmware}
    {decoder : Decoder α} {samples : α → Logged (List Sample)}
    (hevents : ∀ a, ∀ e ∈ (samples a).events, e.isFailureNotice = false)
    (h : ∀ a, Emits c (samples a).value) :
    (ofEndpointLogged name since decoder path query samples).StaysIn c := fun _ =>
  (Collection.within_fetch decoder trivial).bind fun a _ =>
    Collection.within_ofLogged (hevents a) (h a)

end Routine

namespace Scrape

variable {σ : Type} (device : Device σ)

/-- What the body of a turn does, it does in some `run`. -/
theorem of_mem_turns {ctx : ScrapeContext} {table : List Routine} {s : σ} {t : Turn σ}
    (ht : t ∈ turns device ctx table s) :
    t.routine ∈ table ∧
      ∀ body ∈ t.body?, ∃ s', body = (t.routine.collect ctx).run.run device s' := by
  induction table generalizing s with
  | nil => simp [turns] at ht
  | cons r rest ih =>
    rcases List.mem_cons.1 ht with rfl | ht
    · refine ⟨List.mem_cons_self, fun body hbody => ⟨s, ?_⟩⟩
      unfold turn at hbody ⊢
      split at hbody
      · exact (Option.some.inj hbody).symm
      · simp at hbody
    · obtain ⟨hmem, hbody⟩ := ih ht
      exact ⟨List.mem_cons_of_mem _ hmem, hbody⟩

variable {c : Catalog} {table : List Routine}

/-- The `block` of a turn is put together from whole emissions, and its `notes` tell of no
failure. -/
theorem emits_of_mem_turns {ctx : ScrapeContext} {s : σ} {t : Turn σ}
    (ht : t ∈ turns device ctx table s) (h : t.routine.StaysIn c) :
    Emits c t.block ∧ failureNotices t.notes = [] := by
  obtain ⟨-, hrun⟩ := of_mem_turns device ht
  cases hbody : t.body? with
  | none =>
    refine ⟨?_, by simp [Turn.notes, hbody]⟩
    simpa [Turn.block, Turn.outcome, hbody, RoutineOutcome.samples] using emits_nil
  | some body =>
    obtain ⟨s', rfl⟩ := hrun body hbody
    obtain ⟨-, hevents, hvalue⟩ := (h ctx).of_run device s'
    refine ⟨?_, by simpa [Turn.notes, hbody] using failureNotices_eq_nil hevents⟩
    cases hresult : ((t.routine.collect ctx).run.run device s').value with
    | ok samples =>
      rw [hresult] at hvalue
      simpa [Turn.block, Turn.outcome, hbody, hresult, RoutineOutcome.samples] using hvalue
    | error cause =>
      simpa [Turn.block, Turn.outcome, hbody, hresult, RoutineOutcome.samples] using emits_nil

/-- A catalog for all routines of a `table` is one for every turn. -/
theorem of_mem_turns_of_staysIn (h : ∀ r ∈ table, r.StaysIn c) {ctx : ScrapeContext} {s : σ}
    {t : Turn σ} (ht : t ∈ turns device ctx table s) :
    Emits c t.block ∧ failureNotices t.notes = [] :=
  emits_of_mem_turns device ht (h _ (of_mem_turns device ht).1)

/-- The samples of a scrape of `table` are put together from whole emissions. -/
theorem emits_samples_run (h : ∀ r ∈ table, r.StaysIn c) (options : ProbeOptions) (s : σ) :
    Emits c ((scrapeWith table options).run device s).value.samples := by
  have hsamples : ((scrapeWith table options).run device s).value.samples =
      (turnsOf device table options s).flatMap (·.block) := by
    simp [run_scrapeWith, ScrapeReport.addTurns_eq]
  have hchosen : ∀ r ∈ chosen options table, r.StaysIn c := fun r hr =>
    h r (List.mem_filter.1 hr).1
  rw [hsamples]
  exact emits_flatMap fun t ht => (of_mem_turns_of_staysIn device hchosen ht).1

end Scrape
end FirewallProbe
