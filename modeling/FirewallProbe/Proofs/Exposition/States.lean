import FirewallProbe.Proofs.Emission.Resources
import FirewallProbe.Proofs.Exposition.RoundTrip
import FirewallProbe.Proofs.FanOut

/-!
# Indicators of states exclude each other

A state becomes one sample for each state that is known.  These samples stay together: two entities
with the same labels emit the same series, so of two such emissions the writer keeps the whole
first one and nothing of the second.  In the text of a scrape exactly one state of an entity is at
one, whatever the device lists twice.

## Key results

- `samplePerState_eq`: what is emitted for a state
- `filter_name_emissions`: the samples of a family of states come from whole emissions of it
- `firstOfEach_perState`: dropping repeated series drops whole emissions
- `filter_entity_series`: what is written for an entity was emitted at once
- `isWellNamed_of_emits`: the samples of a scrape can be written
-/

namespace FirewallProbe

/-- The label of a state. -/
def stateLabel : String := "state"

/-- The label names of a family of states, without the state. -/
def StateFamily.keys (f : StateFamily) : List String := f.family.labels.dropLast

/-- The states of a family, `unknown` at their end. -/
def StateFamily.states (f : StateFamily) : List String := f.known ++ [unknownState]

/-- The state that is reported is among the `states`. -/
theorem StateFamily.effectiveState_mem (f : StateFamily) (status : String) :
    effectiveState status f.known ∈ f.states := by
  unfold effectiveState
  split
  · next hmem => exact List.mem_append_left _ hmem
  · exact List.mem_append_right _ (List.mem_singleton_self _)

/-- A family whose last label, and no other, is the state, and which has no state twice. -/
structure StateFamily.IsSound (f : StateFamily) : Prop where
  labels : f.family.labels = f.keys ++ [stateLabel]
  stateLabel_not_mem : stateLabel ∉ f.keys
  nodup : f.states.Nodup

instance (f : StateFamily) : Decidable f.IsSound :=
  decidable_of_iff
    (f.family.labels = f.keys ++ [stateLabel] ∧ stateLabel ∉ f.keys ∧ f.states.Nodup)
    ⟨fun h => ⟨h.1, h.2.1, h.2.2⟩, fun h => ⟨h.labels, h.stateLabel_not_mem, h.nodup⟩⟩

/-- The families of states of the `catalog` are sound. -/
theorem isSound_of_mem_catalog : ∀ f ∈ catalog.stateful, f.IsSound := by decide +kernel

namespace StateFamily.IsSound

variable {f : StateFamily}

/-- `allStates` puts `unknown` at the end of the known states of a sound family. -/
theorem allStates_eq (h : f.IsSound) : allStates f.known = f.states := by
  have hnot : unknownState ∉ f.known := fun hmem =>
    (List.nodup_append.1 h.nodup).2.2 _ hmem _ (List.mem_singleton_self _) rfl
  rw [allStates, if_neg hnot]
  rfl

/-- `samplePerState` writes each state behind the `values` of the other labels. -/
theorem samplePerState_eq (h : f.IsSound) {values : List String}
    (hvalues : values.length + 1 = f.family.labels.length) (status : String) :
    f.family.samplePerState values status f.known =
      f.states.map fun state =>
        { name := f.family.name, help := f.family.help, kind := f.family.kind
          value := indicator (state == effectiveState status f.known)
          labels := f.keys.zip values ++ [(stateLabel, state)] } := by
  have hlength : values.length = f.keys.length := by
    rw [h.labels, List.length_append, List.length_singleton] at hvalues
    omega
  rw [Family.samplePerState, fanOut, h.allStates_eq, List.map_map]
  exact List.map_congr_left fun state _ => Family.sample_concat h.labels hlength _ state

/-- Emissions with different `values` have different labels. -/
theorem zip_injective (h : f.IsSound) {values others : List String}
    (hvalues : values.length + 1 = f.family.labels.length)
    (hothers : others.length + 1 = f.family.labels.length)
    (heq : f.keys.zip values = f.keys.zip others) : values = others := by
  have hlength : f.keys.length + 1 = f.family.labels.length := by
    rw [h.labels, List.length_append, List.length_singleton]
  have hsnd := congrArg (List.map Prod.snd) heq
  rwa [List.map_snd_zip (by omega), List.map_snd_zip (by omega)] at hsnd

end StateFamily.IsSound

namespace Exposition

/-! ## Emissions of one family -/

/-- An emission of a family of states that is known: the values of its labels and the status. -/
structure StateEmission where
  values : List String
  status : String

/-- The samples of an emission. -/
def StateEmission.samples (f : StateFamily) (b : StateEmission) : List Sample :=
  f.family.samplePerState b.values b.status f.known

/-- The emissions among `es` of a family of states. -/
private def emissionsOf (f : StateFamily) (es : List Emission) : List StateEmission :=
  es.filterMap fun e =>
    match e with
    | .single _ _ _ => none
    | .states g values status => if g = f then some ⟨values, status⟩ else none

/-- An emission has a value for each label of the family, without the state. -/
private theorem length_of_mem_emissionsOf {c : Catalog} {f : StateFamily} {es : List Emission}
    (hes : ∀ e ∈ es, e.IsIn c) {b : StateEmission} (hb : b ∈ emissionsOf f es) :
    b.values.length + 1 = f.family.labels.length := by
  obtain ⟨e, he, hsome⟩ := List.mem_filterMap.1 hb
  have hin := hes e he
  cases e with
  | single g value values => simp at hsome
  | states g values status =>
    by_cases hg : g = f
    · simp only [hg, if_true, Option.some.injEq] at hsome
      rw [← hsome, ← hg]
      exact hin.2
    · simp [hg] at hsome

/-- An emission has the name of a family of states if it is one of that family. -/
private theorem filter_name_samples {c : Catalog} (hnodup : (c.families.map (·.name)).Nodup)
    {f : StateFamily} (hf : f ∈ c.stateful) {e : Emission} (he : e.IsIn c) :
    e.samples.filter (fun s => s.name = f.family.name) =
      (emissionsOf f [e]).flatMap fun b => b.samples f := by
  rw [Catalog.families, List.map_append, List.map_map, List.nodup_append] at hnodup
  obtain ⟨-, hstateful, hdisjoint⟩ := hnodup
  cases e with
  | single g value values =>
    have hne : g.name ≠ f.family.name :=
      hdisjoint _ (List.mem_map_of_mem he.1) _ (List.mem_map_of_mem hf)
    simp [Emission.samples, emissionsOf, hne]
  | states g values status =>
    have hnames : ∀ s ∈ (Emission.states g values status).samples, s.name = g.family.name :=
      fun s hs => (he.of_mem_samples hs).1
    by_cases hg : g = f
    · subst hg
      rw [List.filter_eq_self.2 fun s hs => by simpa using hnames s hs]
      simp [Emission.samples, StateEmission.samples, emissionsOf]
    · have hne : g.family.name ≠ f.family.name := fun heq =>
        hg (List.inj_on_of_nodup_map hstateful he.1 hf heq)
      rw [List.filter_eq_nil_iff.2 fun s hs => by simpa using hnames s hs ▸ hne]
      simp [emissionsOf, hg]

/-- The samples with the name of a family of states come from whole emissions of it. -/
theorem filter_name_emissions {c : Catalog} (hnodup : (c.families.map (·.name)).Nodup)
    {f : StateFamily} (hf : f ∈ c.stateful) {es : List Emission} (hes : ∀ e ∈ es, e.IsIn c) :
    (es.flatMap (·.samples)).filter (fun s => s.name = f.family.name) =
      (emissionsOf f es).flatMap fun b => b.samples f := by
  induction es with
  | nil => rfl
  | cons e rest ih =>
    rw [List.forall_mem_cons] at hes
    have hsplit : emissionsOf f (e :: rest) = emissionsOf f [e] ++ emissionsOf f rest := by
      rw [emissionsOf, emissionsOf, emissionsOf, ← List.filterMap_append]
      rfl
    rw [List.flatMap_cons, List.filter_append, filter_name_samples hnodup hf hes.1, ih hes.2,
      hsplit, List.flatMap_append]

/-- Dropping repeated series drops whole emissions: the first with each list of `values` stays. -/
theorem firstOfEach_perState {f : StateFamily} (h : f.IsSound)
    {bs : List StateEmission} (hbs : ∀ b ∈ bs, b.values.length + 1 = f.family.labels.length) :
    (bs.flatMap fun b => b.samples f).firstOfEach (·.labels) =
      (bs.firstOfEach (·.values)).flatMap fun b => b.samples f := by
  have hkeys : ∀ b ∈ bs, (b.samples f).map (·.labels) =
      f.states.map fun state => f.keys.zip b.values ++ [(stateLabel, state)] := by
    intro b hb
    rw [StateEmission.samples, h.samplePerState_eq (hbs b hb), List.map_map]
    rfl
  refine List.firstOfEach_flatMap bs ?_ ?_ ?_
  -- Within an emission the states differ.
  · intro b hb
    rw [hkeys b hb]
    exact h.nodup.map fun x y hxy => by simpa using hxy
  -- Emissions for the same values have the same labels, whatever state they report.
  · intro b hb d hd hvalues
    rw [hkeys b hb, hkeys d hd, hvalues]
  -- A label list in common would make the values the same.
  · intro b hb d hd hvalues labels hlabels hcommon
    rw [hkeys b hb] at hlabels
    rw [hkeys d hd] at hcommon
    obtain ⟨x, _, rfl⟩ := List.mem_map.1 hlabels
    obtain ⟨y, _, hxy⟩ := List.mem_map.1 hcommon
    have hzip := (List.append_inj' hxy rfl).1
    exact hvalues (h.zip_injective (hbs b hb) (hbs d hd) hzip.symm)

/-! ## The series of one entity -/

/-- The labels of a series besides its state. -/
def WrittenSeries.entity (s : WrittenSeries) : List (String × String) :=
  s.labels.filter fun l => l.1 ≠ stateLabel

/-- The series of an entity: one for each state, the one that is reported at one. -/
def indicators (f : StateFamily) (entity : List (String × String)) (reported : String) :
    List WrittenSeries :=
  f.states.map fun state =>
    ⟨entity ++ [(stateLabel, state)], if state = reported then "1" else "0"⟩

/-- What is written of an emission. -/
def StateEmission.series (f : StateFamily) (b : StateEmission) : List WrittenSeries :=
  indicators f (f.keys.zip b.values) (effectiveState b.status f.known)

/-- Exactly one of the `indicators` is at one if the state `reported` is among the states. -/
theorem countP_indicators {f : StateFamily} (h : f.IsSound) (entity : List (String × String))
    {reported : String} (hreported : reported ∈ f.states) :
    (indicators f entity reported).countP (fun s => s.value = "1") = 1 := by
  have hcount : (indicators f entity reported).countP (fun s => s.value = "1") =
      f.states.count reported := by
    rw [indicators, List.countP_map, List.count]
    refine List.countP_congr fun state _ => ?_
    by_cases hstate : state = reported <;> simp [hstate]
  rw [hcount]
  exact List.count_eq_one_of_mem h.nodup hreported

/-- The samples of an emission are written as its `series`. -/
theorem map_writtenSeries_samples {f : StateFamily} (h : f.IsSound) {b : StateEmission}
    (hb : b.values.length + 1 = f.family.labels.length) :
    (b.samples f).map writtenSeries = b.series f := by
  have hone : valueText (indicator true) = "1" := by decide +kernel
  have hzero : valueText (indicator false) = "0" := by decide +kernel
  rw [StateEmission.samples, h.samplePerState_eq hb, List.map_map, StateEmission.series,
    indicators]
  refine List.map_congr_left fun state _ => ?_
  by_cases hstate : state = effectiveState b.status f.known
  · simp [writtenSeries, hstate, hone]
  · have hother : (state == effectiveState b.status f.known) = false := by simpa using hstate
    simp [writtenSeries, hstate, hother, hzero]

/-- The `series` of an emission have the labels of its entity. -/
theorem entity_of_mem_series {f : StateFamily} (h : f.IsSound) {b : StateEmission}
    {s : WrittenSeries} (hs : s ∈ b.series f) : s.entity = f.keys.zip b.values := by
  obtain ⟨state, _, rfl⟩ := List.mem_map.1 hs
  have hkeys : ∀ l ∈ f.keys.zip b.values, l.1 ≠ stateLabel := by
    intro l hl heq
    exact h.stateLabel_not_mem (heq ▸ (List.of_mem_zip hl).1)
  rw [WrittenSeries.entity, List.filter_append, List.filter_eq_self.2 (by simpa using hkeys)]
  simp

/-- Of emissions with different `values`, those series are of an entity that were emitted for it. -/
theorem filter_entity_series {f : StateFamily} (h : f.IsSound) {kept : List StateEmission}
    (hnodup : (kept.map (·.values)).Nodup)
    (hkept : ∀ b ∈ kept, b.values.length + 1 = f.family.labels.length)
    {b : StateEmission} (hb : b ∈ kept) :
    (kept.flatMap fun d => d.series f).filter (fun s => s.entity = f.keys.zip b.values) =
      b.series f := by
  -- A block is of the entity as a whole or not at all, since the labels tell the values.
  have hblock : ∀ d ∈ kept, (d.series f).filter (fun s => s.entity = f.keys.zip b.values) =
      if decide (d.values = b.values) then d.series f else [] := by
    intro d hd
    have hentity : ∀ s ∈ d.series f, s.entity = f.keys.zip d.values := fun s hs =>
      entity_of_mem_series h hs
    by_cases hvalues : d.values = b.values
    · rw [if_pos (decide_eq_true hvalues), List.filter_eq_self]
      intro s hs
      simp [hentity s hs, hvalues]
    · rw [if_neg (by simpa using hvalues), List.filter_eq_nil_iff]
      intro s hs
      have hne : f.keys.zip d.values ≠ f.keys.zip b.values := fun heq =>
        hvalues (h.zip_injective (hkept d hd) (hkept b hb) heq)
      simp [hentity s hs, hne]
  have hown : (kept.filter fun d => d.values = b.values) = [b] :=
    List.filter_key_eq_singleton hnodup hb
  rw [List.filter_flatMap_blocks hblock, hown, List.flatMap_singleton]

/-! ## The text of a scrape -/

/-- All names in the `catalog` are identifiers; they are compared by their bytes, which `decide` can
compute. -/
private theorem isIdentifier_catalog : ∀ f ∈ catalog.families,
    isIdentifierBytes isNameStart (Text.bytesOf f.name) = true ∧
      ∀ l ∈ f.labels, isIdentifierBytes isLabelStart (Text.bytesOf l) = true := by
  decide +kernel

/-- No family of the `catalog` has the name of one about the probe. -/
private theorem name_ne_probe : ∀ f ∈ catalog.families,
    f.name ≠ probeSuccess.name ∧ f.name ≠ probeDuration.name := by
  decide +kernel

/-- What is emitted from the `catalog` can be written beside the families about the probe. -/
theorem isWellNamed_of_emits {samples : List Sample} (h : Emits catalog samples) :
    ∀ s ∈ samples, s.IsWellNamed ∧ s.name ≠ probeSuccess.name ∧ s.name ≠ probeDuration.name := by
  obtain ⟨es, hes, rfl⟩ := h
  intro s hs
  obtain ⟨e, he, hs⟩ := List.mem_flatMap.1 hs
  obtain ⟨hname, hlabels⟩ := (hes e he).of_mem_samples hs
  have hfamily := (hes e he).family_mem
  obtain ⟨hmetric, hlabel⟩ := isIdentifier_catalog _ hfamily
  refine ⟨⟨?_, fun l hl => ?_⟩, hname ▸ name_ne_probe _ hfamily⟩
  · rw [hname]
    exact isIdentifier_of_bytes hmetric
  · refine isIdentifier_of_bytes (hlabel l.1 ?_)
    rw [← hlabels]
    exact List.mem_map_of_mem hl

/-- The series of a written family of states are whole emissions, no two of them with the same
`values`. -/
theorem series_of_mem_writtenFamilies {samples : List Sample} (h : Emits catalog samples)
    {f : StateFamily} (hf : f ∈ catalog.stateful) {written : WrittenFamily}
    (hwritten : written ∈ writtenFamilies samples) (hname : written.name = f.family.name) :
    ∃ kept : List StateEmission, (kept.map (·.values)).Nodup ∧
      (∀ b ∈ kept, b.values.length + 1 = f.family.labels.length) ∧
      written.series = kept.flatMap fun b => b.series f := by
  obtain ⟨es, hes, rfl⟩ := h
  have hsound := isSound_of_mem_catalog f hf
  have hlength := fun b (hb : b ∈ emissionsOf f es) => length_of_mem_emissionsOf hes hb
  refine ⟨(emissionsOf f es).firstOfEach (·.values), List.nodup_firstOfEach _ _,
    fun b hb => hlength b (List.mem_of_mem_firstOfEach hb), ?_⟩
  obtain ⟨head, _, rfl⟩ := List.mem_map.1 hwritten
  have hhead : head.name = f.family.name := hname
  rw [WrittenFamily.of, hhead, filter_name_emissions nodup_names_catalog hf hes,
    firstOfEach_perState hsound hlength, List.map_flatMap]
  exact List.flatMap_congr fun b hb =>
    map_writtenSeries_samples hsound (hlength b (List.mem_of_mem_firstOfEach hb))

/-- In the text of a scrape the states of an entity exclude each other: for all labels besides the
state that occur in a `stateful` family there is one series for each known state and for `unknown`,
in this order, and exactly one of them is at one. -/
theorem states_exclusive {σ : Type} (device : Device σ) (options : ProbeOptions) (s : σ)
    (success : Bool) (duration : Duration) :
    ∃ families, readText? (render ((scrape options).run device s).value.samples success
        duration).value = some families ∧
      ∀ f ∈ catalog.stateful, (f.known ++ ["unknown"]).Nodup ∧
        ∀ written ∈ families, written.name = f.family.name → ∀ series ∈ written.series,
          ∃ reported ∈ f.known ++ ["unknown"],
            let own := written.series.filter fun t => t.entity = series.entity
            own = (f.known ++ ["unknown"]).map (fun state =>
                ⟨series.entity ++ [("state", state)], if state = reported then "1" else "0"⟩) ∧
              own.countP (fun t => t.value = "1") = 1 := by
  have hemits : Emits catalog ((scrape options).run device s).value.samples :=
    Scrape.emits_samples_run device staysIn_routineTable options s
  have hnamed := isWellNamed_of_emits hemits
  refine ⟨_, readText?_value_render (fun t ht => (hnamed t ht).1) (fun t ht => (hnamed t ht).2)
    success duration, fun f hf => ?_⟩
  have hsound := isSound_of_mem_catalog f hf
  refine ⟨hsound.nodup, fun written hwritten hname series hseries => ?_⟩
  -- The families about the probe have names of their own.
  have hmem : written ∈ writtenFamilies ((scrape options).run device s).value.samples := by
    rcases List.mem_append.1 hwritten with hmem | hprobe
    · exact hmem
    · have hne := name_ne_probe f.family (List.mem_append_right _ (List.mem_map_of_mem hf))
      simp only [probeFamilies, List.mem_cons, List.not_mem_nil, or_false] at hprobe
      rcases hprobe with rfl | rfl
      · exact absurd hname.symm hne.1
      · exact absurd hname.symm hne.2
  obtain ⟨kept, hnodup, hlength, heq⟩ := series_of_mem_writtenFamilies hemits hf hmem hname
  rw [heq] at hseries
  obtain ⟨b, hb, hindicator⟩ := List.mem_flatMap.1 hseries
  have hentity := entity_of_mem_series hsound hindicator
  have hown := filter_entity_series hsound hnodup hlength hb
  refine ⟨effectiveState b.status f.known, f.effectiveState_mem b.status, ?_⟩
  rw [heq, hentity]
  exact ⟨hown, hown ▸ countP_indicators hsound _ (f.effectiveState_mem b.status)⟩

end Exposition
end FirewallProbe
