import Mathlib.Data.List.Perm.Basic
import FirewallProbe.Proofs.Exposition.States
import FirewallProbe.Proofs.Scrape.CallTrace

/-!
# Families are emitted consistently

A sample of a scrape has name, help, kind and all label names from one family of the catalog, and
the families of different routines have different names.  So a name stands for one list of label
names and for one routine, whatever the device answers.

## Key results

- `Emits.exists_family`: every sample is one of a family, with all its label names
- `exists_ownCatalog`: every turn emits from the catalog of its routine
- `routine_eq_of_name_eq`: a name of a sample belongs to one routine
-/

namespace FirewallProbe

/-- The label names of a sample. -/
def Sample.keys (s : Sample) : List String := s.labels.map (·.1)

/-! ## Samples and their families -/

/-- A sample carries what its family `f` says: name, help, kind and the whole list of label
names. -/
structure Sample.IsOf (s : Sample) (f : Family) : Prop where
  name : s.name = f.name
  help : s.help = f.help
  kind : s.kind = f.kind
  keys : s.keys = f.labels

/-- Every sample of an emission carries what its family says. -/
theorem Emission.IsIn.isOf {c : Catalog} {e : Emission} (h : e.IsIn c) {s : Sample}
    (hs : s ∈ e.samples) : s.IsOf e.family := by
  obtain ⟨hname, hkeys⟩ := h.of_mem_samples hs
  cases e with
  | single f value labels =>
    rw [List.mem_singleton.1 hs] at hname hkeys ⊢
    exact ⟨hname, rfl, rfl, hkeys⟩
  | states f labels status =>
    obtain ⟨⟨state, value⟩, _, rfl⟩ := List.mem_map.1 hs
    exact ⟨hname, rfl, rfl, hkeys⟩

/-- Every sample that a catalog emits is of one of its families. -/
theorem Emits.exists_family {c : Catalog} {samples : List Sample} (h : Emits c samples)
    {s : Sample} (hs : s ∈ samples) : ∃ f ∈ c.families, s.IsOf f := by
  obtain ⟨es, hes, rfl⟩ := h
  obtain ⟨e, he, hs⟩ := List.mem_flatMap.1 hs
  exact ⟨e.family, (hes e he).family_mem, (hes e he).isOf hs⟩

/-- No family of the `catalog` has one label twice. -/
theorem nodup_labels_catalog : ∀ f ∈ catalog.families, f.labels.Nodup := by decide +kernel

/-- Where a name tells the family in `c`, samples of one name have all in common but value and label
values. -/
theorem Emits.eq_of_name_eq {c : Catalog} (hnodup : (c.families.map (·.name)).Nodup)
    {xs ys : List Sample} (hxs : Emits c xs) (hys : Emits c ys) {x y : Sample} (hx : x ∈ xs)
    (hy : y ∈ ys) (h : x.name = y.name) : x.help = y.help ∧ x.kind = y.kind ∧ x.keys = y.keys := by
  obtain ⟨f, hf, hxf⟩ := hxs.exists_family hx
  obtain ⟨g, hg, hyg⟩ := hys.exists_family hy
  have hname : f.name = g.name := by rw [← hxf.name, h, hyg.name]
  obtain rfl : f = g := List.inj_on_of_nodup_map hnodup hf hg hname
  exact ⟨hxf.help.trans hyg.help.symm, hxf.kind.trans hyg.kind.symm, hxf.keys.trans hyg.keys.symm⟩

/-! ## Routines and their catalogs -/

/-- No two of the `catalogs` have a name in common, and none has a name twice. -/
theorem nodup_names_catalogs : (catalogs.flatMap fun c => c.families.map (·.name)).Nodup := by
  -- The families of all catalogs are those of the joined one, which lists those of states last.
  have hperm : (catalog.families).Perm (catalogs.flatMap Catalog.families) := by
    have happend := List.flatMap_append_perm catalogs (·.plain) fun c => c.stateful.map (·.family)
    rwa [← List.map_flatMap] at happend
  rw [← List.map_flatMap]
  exact (hperm.map (·.name)).nodup_iff.1 nodup_names_catalog

/-- The name of a family finds the routine in whose catalog it is. -/
theorem routine_eq_of_family_name_eq {r r' : Routine} {c c' : Catalog}
    (hr : (r, c) ∈ routineTable.zip catalogs) (hr' : (r', c') ∈ routineTable.zip catalogs)
    {f g : Family} (hf : f ∈ c.families) (hg : g ∈ c'.families) (h : f.name = g.name) : r = r' := by
  -- Catalogs at different places of the table have no name in common.
  have hdisjoint :=
    List.pairwise_iff_getElem.1 (List.nodup_flatMap.1 nodup_names_catalogs).2
  obtain ⟨i, hi, hrc⟩ := List.getElem_of_mem hr
  obtain ⟨j, hj, hrc'⟩ := List.getElem_of_mem hr'
  rw [List.getElem_zip, Prod.mk.injEq] at hrc hrc'
  obtain ⟨rfl, rfl⟩ := hrc
  obtain ⟨rfl, rfl⟩ := hrc'
  have hf' := List.mem_map_of_mem (f := (·.name)) hf
  have hg' := List.mem_map_of_mem (f := (·.name)) hg
  rw [h] at hf'
  rcases lt_trichotomy i j with hlt | rfl | hlt
  · exact absurd hg' (hdisjoint i j _ _ hlt hf')
  · rfl
  · exact absurd hf' (hdisjoint j i _ _ hlt hg')

namespace Scrape

variable {σ τ : Type}

/-- Every turn of a scrape emits from the catalog of its own routine. -/
theorem exists_ownCatalog {device : Device σ} {options : ProbeOptions} {s : σ} {t : Turn σ}
    (ht : t ∈ turnsOf device routineTable options s) :
    ∃ c, (t.routine, c) ∈ routineTable.zip catalogs ∧ Emits c t.block := by
  have hmem : t.routine ∈ routineTable :=
    List.mem_of_mem_filter (of_mem_turns device ht).1
  -- The routine and its catalog stand at the same place of the two lists.
  obtain ⟨i, hi, hget⟩ := List.getElem_of_mem hmem
  have hlength : i < catalogs.length := staysIn_catalogs.length_eq ▸ hi
  have hzip : i < (routineTable.zip catalogs).length := by
    rw [List.length_zip]
    exact lt_min hi hlength
  have hstays : t.routine.StaysIn catalogs[i] := hget ▸ staysIn_catalogs.get hi hlength
  refine ⟨catalogs[i], ?_, (emits_of_mem_turns device ht hstays).1⟩
  have hpair : (routineTable.zip catalogs)[i] = (t.routine, catalogs[i]) := by
    rw [List.getElem_zip]
    exact Prod.ext hget rfl
  exact hpair ▸ List.getElem_mem hzip

/-- Samples of one name come from one routine, also in different scrapes. -/
theorem routine_eq_of_name_eq {device : Device σ} {other : Device τ} {options others : ProbeOptions}
    {s : σ} {s' : τ} {t : Turn σ} {u : Turn τ} (ht : t ∈ turnsOf device routineTable options s)
    (hu : u ∈ turnsOf other routineTable others s') {x y : Sample} (hx : x ∈ t.block)
    (hy : y ∈ u.block) (h : x.name = y.name) : t.routine = u.routine := by
  obtain ⟨c, hc, htc⟩ := exists_ownCatalog ht
  obtain ⟨d, hd, hud⟩ := exists_ownCatalog hu
  obtain ⟨f, hf, hxf⟩ := htc.exists_family hx
  obtain ⟨g, hg, hyg⟩ := hud.exists_family hy
  exact routine_eq_of_family_name_eq hc hd hf hg (by rw [← hxf.name, h, hyg.name])

/-- The `samples` of a scrape are put together from whole emissions of the `catalog`, with one value
for each label name.  Samples of one name have the same help, kind and label names, which are all
those of the family of that name, none of them twice.  A name comes from one routine only, also in
different scrapes, and from none that reports the probe itself. -/
theorem families_consistent (device : Device σ) (options : ProbeOptions) (s : σ) :
    let samples := ((scrape options).run device s).value.samples
    let ts := turnsOf device routineTable options s
    samples = ts.flatMap (·.block) ∧
    Emits catalog samples ∧
    (∀ x ∈ samples, ∀ y ∈ samples, x.name = y.name →
      x.help = y.help ∧ x.kind = y.kind ∧ x.keys = y.keys) ∧
    (catalog.families.map (·.name)).Nodup ∧
    (∀ x ∈ samples, (∃ f ∈ catalog.families, x.IsOf f) ∧ x.keys.Nodup ∧
      x.name ≠ "probe_success" ∧ x.name ≠ "probe_duration_seconds") ∧
    ∀ {τ : Type} (other : Device τ) (others : ProbeOptions) (s' : τ),
      ∀ t ∈ ts, ∀ u ∈ turnsOf other routineTable others s', ∀ x ∈ t.block, ∀ y ∈ u.block,
        x.name = y.name → t.routine = u.routine := by
  intro samples ts
  have hemits : Emits catalog samples := emits_samples_run device staysIn_routineTable options s
  refine ⟨samples_scrape device options s, hemits,
    fun x hx y hy => Emits.eq_of_name_eq nodup_names_catalog hemits hemits hx hy,
    nodup_names_catalog, fun x hx => ?_, fun other others s' t ht u hu x hx y hy =>
      routine_eq_of_name_eq ht hu hx hy⟩
  obtain ⟨f, hf, hxf⟩ := hemits.exists_family hx
  exact ⟨⟨f, hf, hxf⟩, hxf.keys ▸ nodup_labels_catalog f hf,
    (Exposition.isWellNamed_of_emits hemits x hx).2⟩

end Scrape
end FirewallProbe
