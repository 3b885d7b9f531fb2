import FirewallProbe.Proofs.Emission.Keyed
import FirewallProbe.Proofs.Exposition.RoundTrip

/-!
# Samples that are all written

A sample is left out of the text only for one with the same name and labels.  So where the samples
of some families are all of different series, the text holds each of them, and nothing is noted
about them.

## Key results

- `events_dropRepeats_eq_nil`: nothing is noted about samples with different labels
- `not_mem_fields_of_mem_events_render`: nothing is noted about families of different labels
- `writesEach_render`: families of different series are written completely
-/

namespace FirewallProbe
namespace Exposition

/-- The samples in `own` are written completely: no two of them are of one series, the text has for
each of them one family with its name, which holds all samples of that name in their order, and no
event is about one of them. -/
structure WritesEach (out : Logged String) (own : List Sample) : Prop where
  distinct : (own.map fun x => (x.name, x.labels)).Nodup
  written : ∃ families, readText? out.value = some families ∧ ∀ x ∈ own,
    ∃ f, families.filter (fun f => f.name = x.name) = [f] ∧
      f.series = (own.filter fun y => y.name = x.name).map writtenSeries
  quiet : ∀ e ∈ out.events, ∀ x ∈ own, ("metric", x.name) ∉ e.fields

/-- What `readText?` reads stands in the text once. -/
theorem isUnique_of_readText? {text : String} {families : List WrittenFamily}
    (h : readText? text = some families) : IsUnique families := by
  rw [readText?] at h
  simp only [Option.bind_eq_bind, Option.bind_eq_some_iff] at h
  obtain ⟨_, -, _, -, _, -, hunique⟩ := h
  split at hunique
  next hsome => exact Option.some.inj hunique ▸ hsome
  next => cases hunique

/-! ## Events -/

/-- `dropRepeats` notes nothing about samples whose labels are written differently and are not among
those `seen`. -/
theorem events_dropRepeats_eq_nil {seen : List (List Char)} {samples : List Sample}
    (h : (samples.map fun s => labelsChars s.labels).Nodup)
    (hseen : ∀ s ∈ samples, labelsChars s.labels ∉ seen) :
    (dropRepeats seen samples).events = [] := by
  induction samples generalizing seen with
  | nil => rfl
  | cons s rest ih =>
    rw [List.map_cons, List.nodup_cons] at h
    rw [List.forall_mem_cons] at hseen
    rw [dropRepeats, if_neg hseen.1]
    refine ih h.2 fun t ht => ?_
    rw [List.mem_cons, not_or]
    exact ⟨fun heq => h.1 (heq ▸ List.mem_map_of_mem ht), hseen.2 t ht⟩

/-- `dropRepeats` notes nothing but dropped samples. -/
theorem exists_of_mem_events_dropRepeats {seen : List (List Char)} {samples : List Sample}
    {e : Event} (he : e ∈ (dropRepeats seen samples).events) :
    ∃ s ∈ samples, e = duplicateEvent s := by
  induction samples generalizing seen with
  | nil => simp [dropRepeats] at he
  | cons s rest ih =>
    rw [dropRepeats] at he
    dsimp only at he
    split at he
    · rcases List.mem_cons.1 he with rfl | he
      · exact ⟨s, List.mem_cons_self, rfl⟩
      · obtain ⟨t, ht, heq⟩ := ih he
        exact ⟨t, List.mem_cons_of_mem _ ht, heq⟩
    · obtain ⟨t, ht, heq⟩ := ih he
      exact ⟨t, List.mem_cons_of_mem _ ht, heq⟩

/-- `duplicateEvent` names the metric of the sample that was dropped. -/
theorem name_eq_of_mem_fields_duplicateEvent {s : Sample} {name : String}
    (h : ("metric", name) ∈ (duplicateEvent s).fields) : s.name = name := by
  simp only [duplicateEvent, List.mem_cons, List.not_mem_nil, or_false, Prod.mk.injEq] at h
  rcases h with ⟨-, rfl⟩ | ⟨hkey, -⟩
  · rfl
  · exact absurd hkey (by decide)

/-- A block holds all samples of one name. -/
theorem samples_of_mem_blocks {samples : List Sample} {b : Block} (hb : b ∈ blocks samples) :
    b.samples = samples.filter fun s => s.name = b.head.name := by
  have hpair : (b.head, b.samples) ∈ (blocks samples).map fun b => (b.head, b.samples) :=
    List.mem_map_of_mem hb
  rw [blocks_eq] at hpair
  obtain ⟨head, -, heq⟩ := List.mem_map.1 hpair
  obtain ⟨rfl, hsamples⟩ := Prod.mk.inj heq
  exact hsamples.symm

/-- `render` notes nothing about a family whose samples have different labels. -/
theorem not_mem_fields_of_mem_events_render {samples : List Sample}
    (h : ∀ s ∈ samples, s.IsWellNamed) {name : String}
    (hnodup : ((samples.filter fun s => s.name = name).map (·.labels)).Nodup)
    {success : Bool} {duration : Duration} {e : Event}
    (he : e ∈ (render samples success duration).events) : ("metric", name) ∉ e.fields := by
  intro hfields
  have hevents : (render samples success duration).events =
      (blocks samples).flatMap fun b => (dropRepeats [] b.samples).events := by
    simp [render, lines, blockLines]
  rw [hevents] at he
  obtain ⟨b, hb, he⟩ := List.mem_flatMap.1 he
  have hsamples := samples_of_mem_blocks hb
  obtain ⟨s, hs, rfl⟩ := exists_of_mem_events_dropRepeats he
  -- The event is about a sample of this block, so the block is that of the family.
  have hname : b.head.name = name := by
    rw [← name_eq_of_mem_fields_duplicateEvent hfields]
    exact (of_decide_eq_true (List.mem_filter.1 (hsamples ▸ hs)).2).symm
  rw [hname] at hsamples
  have hwell : ∀ t ∈ b.samples, t.IsWellNamed := fun t ht =>
    h t (List.mem_of_mem_filter (hsamples ▸ ht))
  have hchars : (b.samples.map fun t => labelsChars t.labels).Nodup := by
    have hmap : (b.samples.map fun t => labelsChars t.labels) =
        (b.samples.map (·.labels)).map labelsChars := by simp
    rw [hmap]
    refine List.Nodup.map_on (fun ls hls ms hms heq => ?_) (hsamples ▸ hnodup)
    obtain ⟨t, ht, rfl⟩ := List.mem_map.1 hls
    obtain ⟨u, hu, rfl⟩ := List.mem_map.1 hms
    exact labelsChars_injective (hwell t ht).labels (hwell u hu).labels heq
  rw [events_dropRepeats_eq_nil hchars (by simp)] at he
  exact List.not_mem_nil he

/-! ## Text -/

/-- `readText?` finds a family whose samples have different labels once, with all of them. -/
theorem exists_family_render {samples : List Sample} (h : ∀ s ∈ samples, s.IsWellNamed)
    (hprobe : ∀ s ∈ samples, s.name ≠ probeSuccess.name ∧ s.name ≠ probeDuration.name)
    (success : Bool) (duration : Duration) :
    ∃ families, readText? (render samples success duration).value = some families ∧
      ∀ x ∈ samples, ((samples.filter fun s => s.name = x.name).map (·.labels)).Nodup →
        ∃ f, families.filter (fun f => f.name = x.name) = [f] ∧
          f.series = (samples.filter fun s => s.name = x.name).map writtenSeries := by
  have hread := readText?_value_render h hprobe success duration
  refine ⟨_, hread, fun x hx hnodup => ?_⟩
  -- The family of `x` is the one whose help and kind the first sample of its name gives.
  obtain ⟨head, hhead, hname⟩ :=
    @List.exists_mem_firstOfEach _ _ _ (fun s : Sample => s.name) _ _ hx
  let f : WrittenFamily := .of head
    ((samples.filter fun s => s.name = head.name).firstOfEach (·.labels))
  have hf : f ∈ writtenFamilies samples ++ probeFamilies success duration :=
    List.mem_append_left _ (List.mem_map_of_mem hhead)
  have hfname : f.name = x.name := hname
  refine ⟨f, ?_, ?_⟩
  · rw [← hfname]
    exact List.filter_key_eq_singleton (isUnique_of_readText? hread).1 hf
  · have hseries : f.series =
        ((samples.filter fun s => s.name = x.name).firstOfEach (·.labels)).map writtenSeries := by
      rw [← hname]
      rfl
    rw [hseries, List.firstOfEach_eq_self hnodup]

/-- `render` writes the samples in `own` completely if they are of different series and no other
sample has one of their names. -/
theorem writesEach_render {samples own : List Sample} (h : ∀ s ∈ samples, s.IsWellNamed)
    (hprobe : ∀ s ∈ samples, s.name ≠ probeSuccess.name ∧ s.name ≠ probeDuration.name)
    (hown : ∀ x ∈ own, x ∈ samples ∧
      (samples.filter fun s => s.name = x.name) = own.filter fun s => s.name = x.name)
    (hnodup : (own.map Sample.series).Nodup) (success : Bool) (duration : Duration) :
    WritesEach (render samples success duration) own := by
  have hlabels : ∀ x ∈ own, ((samples.filter fun s => s.name = x.name).map (·.labels)).Nodup := by
    intro x hx
    rw [(hown x hx).2]
    have hseries : ((own.filter fun s => s.name = x.name).map Sample.series).Nodup :=
      hnodup.sublist (List.filter_sublist.map _)
    -- Of one name, series are told apart by their labels.
    refine (List.nodup_map_iff_inj_on hseries.of_map).2 fun s hs t ht heq => ?_
    refine List.inj_on_of_nodup_map hseries hs ht (Prod.ext ?_ heq)
    exact (of_decide_eq_true (List.mem_filter.1 hs).2).trans
      (of_decide_eq_true (List.mem_filter.1 ht).2).symm
  obtain ⟨families, hread, hfamilies⟩ := exists_family_render h hprobe success duration
  refine ⟨hnodup, ⟨families, hread, fun x hx => ?_⟩, fun e he x hx =>
    not_mem_fields_of_mem_events_render h (hlabels x hx) he⟩
  obtain ⟨f, hf, hseries⟩ := hfamilies x (hown x hx).1 (hlabels x hx)
  exact ⟨f, hf, (hown x hx).2 ▸ hseries⟩

end Exposition
end FirewallProbe
