import FirewallProbe.Proofs.Exposition.Reading
import FirewallProbe.Proofs.FirstOfEach

/-!
# Samples are read back from their text

`writtenFamilies` says what a text must hold: the families in the order in which they first occur,
and of each family the first sample with each list of labels.  What is read from a rendered text is
exactly that, followed by the two families about the probe.  Label values and help texts are
arbitrary; no value can end its line or pass for a label.

## Key results

- `labelsChars_injective`: different labels are written differently
- `value_dropRepeats` / `blocks_eq`: the loops over samples keep the first of each
- `readText?_value_render`: the text of samples is read as their families
-/

namespace FirewallProbe

/-- Whether the name of a sample and the names of its labels are identifiers. -/
structure Sample.IsWellNamed (s : Sample) : Prop where
  name : Exposition.isMetricName s.name = true
  labels : ∀ l ∈ s.labels, Exposition.isLabelName l.1 = true

instance (s : Sample) : Decidable s.IsWellNamed :=
  decidable_of_iff
    (Exposition.isMetricName s.name = true ∧ ∀ l ∈ s.labels, Exposition.isLabelName l.1 = true)
    ⟨fun h => ⟨h.1, h.2⟩, fun h => ⟨h.name, h.labels⟩⟩

namespace Exposition

/-- The series of a sample. -/
def writtenSeries (s : Sample) : WrittenSeries := ⟨s.labels, valueText s.value⟩

/-- A family whose help and kind one sample gives, with the series of some samples. -/
def WrittenFamily.of (head : Sample) (kept : List Sample) : WrittenFamily :=
  ⟨head.name, head.help, head.kind, kept.map writtenSeries⟩

/-- The families of samples, in the order in which they first occur.  The first sample of a family
gives help and kind, and of samples with the same labels the first one is written. -/
def writtenFamilies (samples : List Sample) : List WrittenFamily :=
  (samples.firstOfEach (·.name)).map fun head =>
    .of head ((samples.filter fun s => s.name = head.name).firstOfEach (·.labels))

/-- A family with one sample without labels. -/
def writtenGauge (f : Family) (value : Float) : WrittenFamily :=
  ⟨f.name, f.help, f.kind, [⟨[], valueText value⟩]⟩

/-- The families about the probe. -/
def probeFamilies (success : Bool) (duration : Duration) : List WrittenFamily :=
  [writtenGauge probeSuccess (indicator success), writtenGauge probeDuration (secondsOf duration)]

/-! ## The first of each -/

/-- `labelsChars` writes different labels differently. -/
theorem labelsChars_injective {ls ms : List (String × String)}
    (hls : ∀ l ∈ ls, isLabelName l.1 = true) (hms : ∀ l ∈ ms, isLabelName l.1 = true)
    (h : labelsChars ls = labelsChars ms) : ls = ms := by
  -- Whatever is read from one text is what was written in both.
  have hread := readSeries?_written hls 0.0
  rw [h, readSeries?_written hms 0.0] at hread
  simp only [Option.some.injEq, WrittenSeries.mk.injEq] at hread
  exact hread.1.symm

/-- `dropRepeats` keeps the first samples with their written labels, except those `seen` before. -/
theorem value_dropRepeats (seen : List (List Char)) (samples : List Sample) :
    (dropRepeats seen samples).value =
      (samples.firstOfEach fun s => labelsChars s.labels).filter fun s =>
        labelsChars s.labels ∉ seen := by
  induction samples generalizing seen with
  | nil => rfl
  | cons s rest ih =>
    rw [List.firstOfEach_cons]
    -- A sample that was seen hides nothing that what was seen does not hide already.
    by_cases hseen : labelsChars s.labels ∈ seen
    · simp only [dropRepeats, hseen, if_true, ih, not_true_eq_false, decide_false,
        Bool.false_eq_true, not_false_eq_true, List.filter_cons_of_neg, List.filter_filter]
      refine List.filter_congr fun b _ => ?_
      by_cases hb : labelsChars b.labels = labelsChars s.labels <;> simp [hb, hseen]
    · simp only [dropRepeats, hseen, if_false, ih, not_false_eq_true, decide_true,
        List.filter_cons_of_pos, List.filter_filter]
      congr 1
      refine List.filter_congr fun b _ => ?_
      simp [Bool.and_comm]

/-- `dropRepeats` compares samples with well-formed label names by their labels. -/
theorem value_dropRepeats_nil {samples : List Sample} (h : ∀ s ∈ samples, s.IsWellNamed) :
    (dropRepeats [] samples).value = samples.firstOfEach (·.labels) := by
  rw [value_dropRepeats, List.filter_eq_self.2 (by simp)]
  exact List.firstOfEach_comp fun s hs t ht => labelsChars_injective (h s hs).labels (h t ht).labels

/-- `blocks` makes one block for each name, with all samples of that name. -/
theorem blocks_eq (samples : List Sample) :
    (blocks samples).map (fun b => (b.head, b.samples)) =
      (samples.firstOfEach (·.name)).map fun head =>
        (head, samples.filter fun s => s.name = head.name) := by
  -- The blocks after the first are made of the samples with another name, which are fewer.
  induction hn : samples.length using Nat.strongRecOn generalizing samples with
  | _ n ih =>
    cases samples with
    | nil => rw [blocks]; rfl
    | cons s rest =>
      have hlt : (rest.filter fun r => r.name != s.name).length < n := by
        rw [← hn, List.length_cons]
        exact Nat.lt_succ_of_le (List.length_filter_le _ _)
      have hother : (rest.filter fun r => r.name != s.name) =
          rest.filter fun r => r.name ≠ s.name := by
        refine List.filter_congr fun r _ => ?_
        by_cases hr : r.name = s.name <;> simp [hr]
      rw [blocks, List.map_cons, ih _ hlt _ rfl, hother, List.firstOfEach_cons, List.map_cons,
        ← List.filter_firstOfEach (fun r : Sample => r.name) (fun k => k ≠ s.name)]
      congr 1
      · have hown : (rest.filter fun r => r.name == s.name) =
            rest.filter fun r => r.name = s.name := by
          refine List.filter_congr fun r _ => ?_
          by_cases hr : r.name = s.name <;> simp [hr]
        rw [Block.samples, hown, List.filter_cons_of_pos (by simp)]
      · refine List.map_congr_left fun head hhead => ?_
        have hne : head.name ≠ s.name := by simpa using (List.mem_filter.1 hhead).2
        rw [List.filter_cons_of_neg (by simpa using hne.symm), List.filter_filter]
        congr 1
        refine List.filter_congr fun r _ => ?_
        by_cases hr : r.name = head.name <;> simp [hr, hne]

/-! ## The lines of families -/

/-- `mapM` succeeds with `bs` if `f` finds each of them. -/
private theorem mapM_eq_some {α β : Type} {f : α → Option β} {as : List α} {bs : List β}
    (h : as.map f = bs.map some) : as.mapM f = some bs := by
  induction as generalizing bs with
  | nil =>
    have : bs = [] := by simpa using h.symm
    subst this
    rfl
  | cons a rest ih =>
    cases bs with
    | nil => simp at h
    | cons b bs =>
      rw [List.map_cons, List.map_cons, List.cons.injEq] at h
      rw [List.mapM_cons, h.1, ih h.2]
      rfl

/-- The lines of a family as characters. -/
private def textLines (head : Sample) (kept : List Sample) : List (List Char) :=
  helpLine head.name head.help :: kindLine head.name head.kind :: kept.map sampleLine

/-- A family that can be written: all names are identifiers, and the samples have its name. -/
private structure IsWritable (head : Sample) (kept : List Sample) : Prop where
  isMetricName : isMetricName head.name = true
  isWellNamed : ∀ s ∈ kept, s.IsWellNamed
  name_eq : ∀ s ∈ kept, s.name = head.name

/-- `readLine?` reads the lines of a family that can be written back. -/
private theorem map_readLine?_textLines {head : Sample} {kept : List Sample}
    (h : IsWritable head kept) :
    (textLines head kept).map readLine? = (WrittenFamily.of head kept).lines.map some := by
  have hsamples : kept.map (readLine? ∘ sampleLine) =
      kept.map fun s => some (Line.sample head.name (writtenSeries s)) := by
    refine List.map_congr_left fun s hs => ?_
    have hwell := h.isWellNamed s hs
    rw [Function.comp_apply, readLine?_sampleLine hwell.name hwell.labels, h.name_eq s hs]
    rfl
  simp only [textLines, WrittenFamily.lines, WrittenFamily.of, List.map_cons, List.map_map,
    hsamples, readLine?_helpLine h.isMetricName, readLine?_kindLine h.isMetricName]
  rfl

/-- The lines of a family that can be written have no line end in them. -/
private theorem newline_not_mem_textLines {head : Sample} {kept : List Sample}
    (h : IsWritable head kept) : ∀ line ∈ textLines head kept, '\n' ∉ line := by
  intro line hline
  rcases List.mem_cons.1 hline with rfl | hline
  · exact newline_not_mem_helpLine h.isMetricName head.help
  rcases List.mem_cons.1 hline with rfl | hline
  · exact newline_not_mem_kindLine h.isMetricName head.kind
  obtain ⟨s, hs, rfl⟩ := List.mem_map.1 hline
  exact newline_not_mem_sampleLine (h.isWellNamed s hs).name (h.isWellNamed s hs).labels

/-- `readText?` reads the text of families as these families, provided that nothing stands in it
twice. -/
private theorem readText?_textOf {parts : List (Sample × List Sample)}
    (h : ∀ p ∈ parts, IsWritable p.1 p.2)
    (hunique : IsUnique (parts.map fun p => .of p.1 p.2)) :
    readText? (textOf (parts.flatMap fun p => textLines p.1 p.2)) =
      some (parts.map fun p => .of p.1 p.2) := by
  have hsplit : splitLines (textOf (parts.flatMap fun p => textLines p.1 p.2)).toList =
      some (parts.flatMap fun p => textLines p.1 p.2) := by
    refine splitLines_textOf fun line hline => ?_
    obtain ⟨p, hp, hline⟩ := List.mem_flatMap.1 hline
    exact newline_not_mem_textLines (h p hp) line hline
  -- Each line is read for what it is, so that only the grouping of lines is left.
  have hread : (parts.flatMap fun p => textLines p.1 p.2).mapM readLine? =
      some ((parts.map fun p => WrittenFamily.of p.1 p.2).flatMap (·.lines)) := by
    refine mapM_eq_some ?_
    rw [List.flatMap_map, List.map_flatMap, List.map_flatMap]
    exact List.flatMap_congr fun p hp => map_readLine?_textLines (h p hp)
  simp only [readText?, hsplit, hread, families?_lines, Option.bind_eq_bind, Option.bind_some]
  rw [if_pos hunique]

/-! ## The text of samples -/

/-- The families that are written, each with the samples of its series. -/
private def parts (samples : List Sample) (success : Bool) (duration : Duration) :
    List (Sample × List Sample) :=
  let gauge (f : Family) (value : Float) := (f.sample value [], [f.sample value []])
  ((samples.firstOfEach (·.name)).map fun head =>
    (head, (samples.filter fun s => s.name = head.name).firstOfEach (·.labels))) ++
    [gauge probeSuccess (indicator success), gauge probeDuration (secondsOf duration)]

/-- The families of `parts` are those of the samples and then the two about the probe. -/
private theorem map_of_parts (samples : List Sample) (success : Bool) (duration : Duration) :
    ((parts samples success duration).map fun p => WrittenFamily.of p.1 p.2) =
      writtenFamilies samples ++ probeFamilies success duration := by
  rw [parts, List.map_append, List.map_map]
  rfl

/-- All `parts` can be written if the samples are well named. -/
private theorem isWritable_of_mem_parts {samples : List Sample}
    (h : ∀ s ∈ samples, s.IsWellNamed) {success : Bool} {duration : Duration}
    {p : Sample × List Sample} (hp : p ∈ parts samples success duration) :
    IsWritable p.1 p.2 := by
  rcases List.mem_append.1 hp with hp | hp
  · obtain ⟨head, hhead, rfl⟩ := List.mem_map.1 hp
    have hkept : ∀ s ∈ (samples.filter fun s => s.name = head.name).firstOfEach (·.labels),
        s ∈ samples ∧ s.name = head.name := fun s hs => by
      simpa using List.mem_filter.1 (List.mem_of_mem_firstOfEach hs)
    exact ⟨(h head (List.mem_of_mem_firstOfEach hhead)).name, fun s hs => h s (hkept s hs).1,
      fun s hs => (hkept s hs).2⟩
  -- The families about the probe have no labels, and one sample each.
  · have hgauge : ∀ (f : Family) (value : Float), isMetricName f.name = true → f.labels = [] →
        IsWritable (f.sample value []) [f.sample value []] := by
      intro f value hname hlabels
      refine ⟨hname, fun s hs => ?_, fun s hs => by rw [List.mem_singleton.1 hs]⟩
      rw [List.mem_singleton.1 hs]
      exact ⟨hname, by simp [Family.sample, hlabels]⟩
    simp only [List.mem_cons, List.not_mem_nil, or_false] at hp
    rcases hp with rfl | rfl
    · exact hgauge probeSuccess _ (by decide) rfl
    · exact hgauge probeDuration _ (by decide) rfl

/-- Every family and every series is written once. -/
private theorem isUnique_written {samples : List Sample} (success : Bool) (duration : Duration)
    (hprobe : ∀ s ∈ samples, s.name ≠ probeSuccess.name ∧ s.name ≠ probeDuration.name) :
    IsUnique (writtenFamilies samples ++ probeFamilies success duration) := by
  have hnames : (writtenFamilies samples).map (·.name) =
      (samples.firstOfEach (·.name)).map (·.name) := by
    rw [writtenFamilies, List.map_map]
    rfl
  have hprobes : (probeFamilies success duration).map (·.name) =
      [probeSuccess.name, probeDuration.name] := rfl
  constructor
  -- No family stands twice: samples have other names than the families about the probe.
  · rw [List.map_append, hnames, hprobes, List.nodup_append]
    refine ⟨List.nodup_firstOfEach _ _, by decide, ?_⟩
    intro name hname other hother
    obtain ⟨s, hs, rfl⟩ := List.mem_map.1 hname
    have hs' := hprobe s (List.mem_of_mem_firstOfEach hs)
    simp only [List.mem_cons, List.not_mem_nil, or_false] at hother
    rcases hother with rfl | rfl
    · exact hs'.1
    · exact hs'.2
  -- No series of a family stands twice, since only the first with its labels was kept.
  · intro f hf
    rcases List.mem_append.1 hf with hf | hf
    · obtain ⟨head, _, rfl⟩ := List.mem_map.1 hf
      rw [WrittenFamily.of, List.map_map]
      exact List.nodup_firstOfEach (fun s : Sample => s.labels) _
    · simp only [probeFamilies, List.mem_cons, List.not_mem_nil, or_false] at hf
      rcases hf with rfl | rfl <;> simp [writtenGauge]

/-- `lines` writes the lines of `parts`, one family after the other. -/
private theorem value_lines {samples : List Sample} (h : ∀ s ∈ samples, s.IsWellNamed)
    (success : Bool) (duration : Duration) :
    (lines samples success duration).value =
      (parts samples success duration).flatMap fun p => textLines p.1 p.2 := by
  -- In a block only the samples with new labels are written.
  have hblock : ∀ b ∈ blocks samples, (blockLines b).value =
      textLines b.head (b.samples.firstOfEach (·.labels)) := by
    intro b hb
    have hpair : (b.head, b.samples) ∈ (blocks samples).map fun b => (b.head, b.samples) :=
      List.mem_map_of_mem hb
    rw [blocks_eq] at hpair
    obtain ⟨head, _, heq⟩ := List.mem_map.1 hpair
    have hwell : ∀ s ∈ b.samples, s.IsWellNamed := by
      intro s hs
      rw [← (Prod.mk.inj heq).2] at hs
      exact h s (List.mem_of_mem_filter hs)
    rw [blockLines, value_dropRepeats_nil hwell]
    rfl
  have hblocks : (blocks samples).flatMap (fun b => (blockLines b).value) =
      ((blocks samples).map fun b => (b.head, b.samples)).flatMap fun p =>
        textLines p.1 (p.2.firstOfEach (·.labels)) := by
    rw [List.flatMap_map]
    exact List.flatMap_congr hblock
  simp only [lines, Logged.value_flatMap, hblocks, blocks_eq, parts, List.flatMap_append,
    List.flatMap_map]
  rfl

/-- `readText?` reads the text of samples as their families, with the two about the probe at the
end. -/
theorem readText?_value_render {samples : List Sample} (h : ∀ s ∈ samples, s.IsWellNamed)
    (hprobe : ∀ s ∈ samples, s.name ≠ probeSuccess.name ∧ s.name ≠ probeDuration.name)
    (success : Bool) (duration : Duration) :
    readText? (render samples success duration).value =
      some (writtenFamilies samples ++ probeFamilies success duration) := by
  have hunique := isUnique_written success duration hprobe
  rw [← map_of_parts] at hunique ⊢
  rw [render, value_lines h]
  exact readText?_textOf (fun p hp => isWritable_of_mem_parts h hp) hunique

/-- `writtenFamilies` has a sample unless one `before` it has its name and its labels. -/
private theorem exists_mem_writtenFamilies {before after : List Sample} {s : Sample}
    (h : ∀ t ∈ before, ¬(t.name = s.name ∧ t.labels = s.labels)) :
    ∃ f ∈ writtenFamilies (before ++ s :: after), f.name = s.name ∧ writtenSeries s ∈ f.series := by
  have hs : s ∈ before ++ s :: after := List.mem_append_right _ List.mem_cons_self
  obtain ⟨head, hhead, hname⟩ :=
    @List.exists_mem_firstOfEach _ _ _ (fun t : Sample => t.name) _ _ hs
  refine ⟨_, List.mem_map_of_mem hhead, hname, List.mem_map_of_mem ?_⟩
  rw [hname, List.filter_append, List.filter_cons_of_pos (by simp)]
  refine List.mem_firstOfEach_of_not_mem ?_
  intro hmem
  obtain ⟨t, ht, hlabels⟩ := List.mem_map.1 hmem
  have ht' := List.mem_filter.1 ht
  exact h t ht'.1 ⟨by simpa using ht'.2, hlabels⟩

/-- `readText?` reads from the text of `samples` their families, whatever label values and help
texts hold, and a sample is left out only if one before it has its name and its labels. -/
theorem readText?_render {samples : List Sample} (h : ∀ s ∈ samples, s.IsWellNamed)
    (hprobe : ∀ s ∈ samples, s.name ≠ probeSuccess.name ∧ s.name ≠ probeDuration.name)
    (success : Bool) (duration : Duration) :
    readText? (render samples success duration).value =
        some (writtenFamilies samples ++ probeFamilies success duration) ∧
      ∀ before s after, samples = before ++ s :: after →
        (∃ f ∈ writtenFamilies samples, f.name = s.name ∧ writtenSeries s ∈ f.series) ∨
          ∃ t ∈ before, t.name = s.name ∧ t.labels = s.labels := by
  refine ⟨readText?_value_render h hprobe success duration, ?_⟩
  intro before s after heq
  by_cases hearlier : ∃ t ∈ before, t.name = s.name ∧ t.labels = s.labels
  · exact Or.inr hearlier
  · subst heq
    exact Or.inl (exists_mem_writtenFamilies fun t ht htwin => hearlier ⟨t, ht, htwin⟩)

/-- Interleaved families, a repeated series, and values that look like lines and labels. -/
theorem readText?_render_hostile :
    readText? (render [
        ⟨"up", "two\nlines \\ here", .gauge, 1.0, [("name", "a\"\x7d 5\nup 7")]⟩,
        ⟨"bytes:total", "", .counter, 0.5, []⟩,
        ⟨"up", "other", .counter, 0.0, [("name", "a"), ("kind", "b,c=\"d\"")]⟩,
        ⟨"up", "third", .gauge, 9.0, [("name", "a\"\x7d 5\nup 7")]⟩] false (.ofSeconds 2)).value =
      some [
        ⟨"up", "two\nlines \\ here", .gauge, [⟨[("name", "a\"\x7d 5\nup 7")], "1"⟩,
          ⟨[("name", "a"), ("kind", "b,c=\"d\"")], "0"⟩]⟩,
        ⟨"bytes:total", "", .counter, [⟨[], "0.5"⟩]⟩,
        ⟨"probe_success", "Whether every collection routine succeeded", .gauge, [⟨[], "0"⟩]⟩,
        ⟨"probe_duration_seconds", "How long the probe took to complete in seconds", .gauge,
          [⟨[], "2"⟩]⟩] :=
  (readText?_render (by decide +kernel) (by decide +kernel) false (.ofSeconds 2)).1.trans
    (by decide +kernel)

end Exposition
end FirewallProbe
