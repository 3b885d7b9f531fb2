import Mathlib.Algebra.GroupWithZero.Nat
import Mathlib.Data.Set.List
import FirewallProbe.Proofs.Collected
import FirewallProbe.Proofs.Except
import FirewallProbe.Proofs.Grouping
import FirewallProbe.Proofs.TextOrder
import FirewallProbe.Resource.BgpPath

/-!
# Paths counted by neighbour

The paths of a neighbour are counted over all envelopes of its virtual domain, wherever they stand
in the answer.  Two samples are reported for each pair of a virtual domain and a neighbour, the
pairs in the order of their bytes, and an answer that lists the same paths in another arrangement
gives the same samples.

## Key results

- `Envelope.Rearranged.perm_perResult`: what stays when an answer is rearranged
- `BgpPath.samples_eq_flatMap`: the samples, pair by pair
- `BgpPath.samples_eq_of_rearranged`: the arrangement of an answer makes no difference
- `BgpPath.paths_counted_by_pair`: all that comes of a routine
-/

namespace FirewallProbe

/-! ## Answers in other arrangements -/

namespace Envelope

variable {α : Type} {es es' : List (Envelope (List α))}

/-- Answers that differ in the order of envelopes, in the order of results within envelopes and in
how the results of a virtual domain are spread over envelopes. -/
inductive Rearranged : List (Envelope (List α)) → List (Envelope (List α)) → Prop
  | envelopes {es es' : List (Envelope (List α))} (h : es.Perm es') : Rearranged es es'
  | results {es es' : List (Envelope (List α))}
    (h : List.Forall₂ (fun e e' => e.vdom = e'.vdom ∧ e.results.Perm e'.results) es es') :
    Rearranged es es'
  | split {before after parts : List (Envelope (List α))} {e : Envelope (List α)}
    (hvdom : ∀ part ∈ parts, part.vdom = e.vdom)
    (hresults : e.results = parts.flatMap (·.results)) :
    Rearranged (before ++ e :: after) (before ++ parts ++ after)
  | symm {es es' : List (Envelope (List α))} (h : Rearranged es es') : Rearranged es' es
  | trans {es es' es'' : List (Envelope (List α))} (h : Rearranged es es')
    (h' : Rearranged es' es'') : Rearranged es es''

/-- `perResult` goes through the envelopes one after the other. -/
theorem perResult_append (xs ys : List (Envelope (List α))) :
    perResult (xs ++ ys) = perResult xs ++ perResult ys := List.flatMap_append

/-- `perResult` of envelopes of one virtual domain has all results under it. -/
theorem perResult_of_vdom {vdom : String} {parts : List (Envelope (List α))}
    (h : ∀ part ∈ parts, part.vdom = vdom) :
    perResult parts = (parts.flatMap (·.results)).map fun a => (vdom, a) := by
  rw [perResult, List.map_flatMap]
  exact List.flatMap_congr fun part hpart => by rw [h part hpart]

/-- `perResult` has the same results with their virtual domains, in some order. -/
theorem Rearranged.perm_perResult (h : Rearranged es es') :
    (perResult es).Perm (perResult es') := by
  induction h with
  | envelopes h => exact h.flatMap_right _
  | results h =>
    induction h with
    | nil => exact .nil
    | cons hfirst _ ih =>
      obtain ⟨hvdom, hresults⟩ := hfirst
      refine List.Perm.append ?_ ih
      simp only [hvdom]
      exact hresults.map _
  | @split before after parts e hvdom hresults =>
    -- The parts list what the envelope listed, under the same virtual domain.
    have hparts : perResult parts = perResult [e] := by
      rw [perResult_of_vdom hvdom, ← hresults]
      exact (List.append_nil _).symm
    rw [List.append_cons, perResult_append, perResult_append, perResult_append,
      perResult_append, hparts]
  | symm _ ih => exact ih.symm
  | trans _ _ ih ih' => exact ih.trans ih'

end Envelope

namespace BgpPath

open Text (bytesOf)

variable {σ : Type} {device : Device σ} {s : σ} {envelopes : List (Envelope (List BgpPath))}

/-! ## What is counted -/

/-- The paths from a neighbour in a virtual domain, over all envelopes. -/
def pathsOf (envelopes : List (Envelope (List BgpPath))) (pair : String × String) :
    List BgpPath :=
  (envelopes.filter fun e => e.vdom = pair.1).flatMap fun e =>
    e.results.filter fun p => p.learnedFrom = pair.2

/-- Some path is from the neighbour in the virtual domain. -/
def Occurs (envelopes : List (Envelope (List BgpPath))) (pair : String × String) : Prop :=
  ∃ e ∈ envelopes, ∃ p ∈ e.results, (e.vdom, p.learnedFrom) = pair

/-- The order of pairs by the bytes of their texts. -/
def Precedes (a b : String × String) : Prop :=
  bytesOf a.1 < bytesOf b.1 ∨ a.1 = b.1 ∧ bytesOf a.2 < bytesOf b.2

/-- A value that is reported for a pair. -/
def pairSample (family : Family) (count : Nat) (pair : String × String) : Sample where
  name := family.name
  help := family.help
  kind := family.kind
  value := Binary64.ofInt count
  labels := [("vdom", pair.1), ("neighbor_ip", pair.2)]

/-- The two samples of a pair: how many paths it has, and how many of them are best. -/
def pairSamples (f : Families) (envelopes : List (Envelope (List BgpPath)))
    (pair : String × String) : List Sample := [
  pairSample f.paths (pathsOf envelopes pair).length pair,
  pairSample f.best ((pathsOf envelopes pair).countP (·.isBest)) pair]

/-! ## Groups and pairs -/

/-- The key under which a pair is grouped. -/
def keyOfPair (pair : String × String) : List String := [pair.1, pair.2]

/-- The pair of a path. -/
def pairOf (p : String × BgpPath) : String × String := (p.1, p.2.learnedFrom)

/-- A pair is told by the key under which it is grouped. -/
theorem keyOfPair_inj {a b : String × String} : keyOfPair a = keyOfPair b ↔ a = b := by
  simp [keyOfPair, Prod.ext_iff]

/-- Groups are in the order of their pairs. -/
theorem keyOfPair_lt_iff {a b : String × String} : keyOfPair a < keyOfPair b ↔ Precedes a b := by
  simp [keyOfPair, Precedes, List.cons_lt_cons_iff, Text.bytesOf_lt_iff]

/-- A pair occurs if it is that of some path. -/
theorem occurs_iff {pair : String × String} :
    Occurs envelopes pair ↔ pair ∈ (Envelope.perResult envelopes).map pairOf := by
  simp only [Occurs, Envelope.perResult, pairOf, List.map_flatMap, List.map_map, List.mem_flatMap,
    List.mem_map, Function.comp_apply]

/-- `pathsOf` a pair are the paths of its group. -/
theorem pathsOf_eq (envelopes : List (Envelope (List BgpPath))) (pair : String × String) :
    pathsOf envelopes pair =
      ((Envelope.perResult envelopes).filter fun p => pairOf p = pair).map (·.2) := by
  induction envelopes with
  | nil => rfl
  | cons e rest ih =>
    rw [Envelope.perResult, List.flatMap_cons, List.filter_append, List.map_append]
    rw [Envelope.perResult] at ih
    rw [← ih, pathsOf, List.filter_map, List.map_map]
    -- An envelope of another virtual domain adds nothing on either side.
    by_cases hvdom : e.vdom = pair.1
    · rw [List.filter_cons_of_pos (by simpa using hvdom), List.flatMap_cons]
      simp [pairOf, Function.comp_def, Prod.ext_iff, hvdom, pathsOf]
    · rw [List.filter_cons_of_neg (by simpa using hvdom)]
      simp [pairOf, Function.comp_def, Prod.ext_iff, hvdom, pathsOf]

/-- `groupSamples` are those of the pair, with explicit labels. -/
theorem groupSamples_eq {f : Families} (hpaths : f.paths.labels = labelNames)
    (hbest : f.best.labels = labelNames) (envelopes : List (Envelope (List BgpPath)))
    (pair : String × String) :
    groupSamples f (keyOfPair pair)
        ((Envelope.perResult envelopes).filter fun p => keyOfPair (pairOf p) = keyOfPair pair) =
      pairSamples f envelopes pair := by
  have hsample : ∀ family : Family, family.labels = labelNames → ∀ count : Nat,
      family.sample (Binary64.ofInt count) (keyOfPair pair) = pairSample family count pair := by
    intro family hlabels count
    rw [Family.sample, hlabels]
    rfl
  simp only [groupSamples, pairSamples, hsample _ hpaths, hsample _ hbest, keyOfPair_inj,
    pathsOf_eq, List.length_map, List.countP_map, Function.comp_def]

/-- The pairs that occur can be listed in order, and `samples` are theirs. -/
theorem samples_eq_flatMap {f : Families} (hpaths : f.paths.labels = labelNames)
    (hbest : f.best.labels = labelNames) (envelopes : List (Envelope (List BgpPath))) :
    ∃ pairs : List (String × String), pairs.Pairwise Precedes ∧
      (∀ pair, pair ∈ pairs ↔ Occurs envelopes pair) ∧
      samples f envelopes = pairs.flatMap (pairSamples f envelopes) := by
  let members := Envelope.perResult envelopes
  let keys := distinctKeys (members.map fun p => keyOfPair (pairOf p))
  have hmem : ∀ key, key ∈ keys ↔ ∃ pair, Occurs envelopes pair ∧ keyOfPair pair = key := by
    intro key
    simp only [keys, members, mem_distinctKeys, occurs_iff, List.mem_map]
    constructor
    · rintro ⟨p, hp, rfl⟩
      exact ⟨_, ⟨p, hp, rfl⟩, rfl⟩
    · rintro ⟨_, ⟨p, hp, rfl⟩, rfl⟩
      exact ⟨p, hp, rfl⟩
  -- All keys are keys of pairs, so the list of keys is one of pairs.
  obtain ⟨pairs, hpairs⟩ : ∃ pairs, List.map keyOfPair pairs = keys := by
    rw [← Set.mem_range, Set.range_list_map]
    intro key hkey
    obtain ⟨pair, -, rfl⟩ := (hmem key).1 hkey
    exact ⟨pair, rfl⟩
  refine ⟨pairs, ?_, fun pair => ?_, ?_⟩
  · have hsorted : (pairs.map keyOfPair).Pairwise (· < ·) := hpairs ▸ pairwise_distinctKeys _
    rw [List.pairwise_map] at hsorted
    exact hsorted.imp keyOfPair_lt_iff.1
  · rw [← List.mem_map_of_injective fun a b => keyOfPair_inj.1, hpairs, hmem]
    simp only [keyOfPair_inj, exists_eq_right]
  · have hgroup : samples f envelopes = keys.flatMap fun key =>
        groupSamples f key (members.filter fun p => keyOfPair (pairOf p) = key) := by
      rw [samples, group, List.flatMap_map]
      rfl
    rw [hgroup, ← hpairs, List.flatMap_map]
    exact List.flatMap_congr fun pair _ => groupSamples_eq hpaths hbest envelopes pair

/-- The paths of all `pairs` are all paths. -/
theorem sum_length_pathsOf {pairs : List (String × String)} (hnodup : pairs.Nodup)
    (hmem : ∀ pair, pair ∈ pairs ↔ Occurs envelopes pair) :
    (pairs.map fun pair => (pathsOf envelopes pair).length).sum =
      (envelopes.map (·.results.length)).sum := by
  have hpairs : ∀ p ∈ Envelope.perResult envelopes, pairOf p ∈ pairs := fun p hp =>
    (hmem _).2 (occurs_iff.2 (List.mem_map_of_mem hp))
  have hlength := (perm_flatMap_filter_key pairOf hnodup hpairs).length_eq
  rw [List.length_flatMap] at hlength
  simp only [pathsOf_eq, List.length_map]
  rw [hlength, Envelope.perResult, List.length_flatMap]
  simp only [List.length_map]

/-- The arrangement of an answer makes no difference to `samples`. -/
theorem samples_eq_of_rearranged (f : Families) {es es' : List (Envelope (List BgpPath))}
    (h : Envelope.Rearranged es es') : samples f es = samples f es' := by
  refine flatMap_group_of_perm _ (fun key xs ys hperm => ?_) h.perm_perResult
  simp only [groupSamples, hperm.length_eq, hperm.countP_eq]

/-! ## What a routine collects -/

/-- How an answer is read. -/
def answerDecoder : Decoder (List (Envelope (List BgpPath))) :=
  Envelope.listDecoder (Decoder.list (Decoder.record record))

/-- The `envelopes` that a device lists when it is asked for so many paths. -/
def Lists (device : Device σ) (s : σ) (path : String) (limit : Nat)
    (envelopes : List (Envelope (List BgpPath))) : Prop :=
  Collection.readAnswer answerDecoder path (device.answer s ⟨path, query limit⟩).1 = .ok envelopes

/-- A routine that lists `envelopes` counts their paths and notes the full pages. -/
theorem value_collect_of_lists (name : String) {path : String} (f : Families) {ctx : ScrapeContext}
    (h : Lists device s path ctx.options.maxBgpPaths envelopes) :
    let run := ((countRoutine name path f).collect ctx).run.run device s
    run.value = .ok (samples f envelopes) ∧
      run.events = truncatedEvents ctx.options.maxBgpPaths envelopes := by
  simp only [Lists, answerDecoder] at h
  simp [countRoutine, ExceptT.run_bind, Dialogue.run_bind, Collection.run_fetch, h,
    Collection.ofLogged, Dialogue.ofLogged, ExceptT.run_lift, map_eq_pure_bind]

/-- What is collected was listed. -/
theorem lists_of_value_collect {name path : String} {f : Families} {ctx : ScrapeContext}
    {found : List Sample}
    (h : (((countRoutine name path f).collect ctx).run.run device s).value = .ok found) :
    ∃ envelopes, Lists device s path ctx.options.maxBgpPaths envelopes := by
  rw [← Collection.exists_gives_iff] at h
  obtain ⟨_, h⟩ := h
  obtain ⟨envelopes, _, hfetch, -⟩ := Collection.gives_bind_iff.1 h
  exact ⟨envelopes, (Collection.gives_fetch_iff.1 hfetch).1⟩

/-- The paths are counted by pairs of a virtual domain and a neighbour, over all envelopes: the
pairs that occur are reported once each, in the order of their bytes, with the number of their paths
and then the number of the best ones, and nothing else is reported.  No pair has more best paths
than paths, no path is left out, and another arrangement of the answer comes to the same.  A warning
is noted for each envelope whose page is full, which has no fewer paths than the `limit`. -/
theorem paths_counted_by_pair {r : Routine} {path : String} {f : Families}
    (hr : (r, path, f) ∈ [(ipv4Routine, "monitor/router/bgp/paths", ipv4Families),
      (ipv6Routine, "monitor/router/bgp/paths6", ipv6Families)])
    (device : Device σ) (ctx : ScrapeContext) (s : σ) {found : List Sample}
    (h : ((r.collect ctx).run.run device s).value = .ok found) :
    let limit := ctx.options.maxBgpPaths
    ∃ envelopes, ∃ pairs : List (String × String), Lists device s path limit envelopes ∧
      pairs.Pairwise Precedes ∧ pairs.Nodup ∧ (∀ pair, pair ∈ pairs ↔ Occurs envelopes pair) ∧
      found = pairs.flatMap (pairSamples f envelopes) ∧
      (∀ pair, (pathsOf envelopes pair).countP (·.isBest) ≤ (pathsOf envelopes pair).length) ∧
      (pairs.map fun pair => (pathsOf envelopes pair).length).sum =
        (envelopes.map (·.results.length)).sum ∧
      ((r.collect ctx).run.run device s).events =
        (envelopes.filter fun e => limit ≤ e.results.length).map (fun e =>
          ⟨.warn, "BGP path listing truncated, counts are incomplete",
            [("vdom", e.vdom), ("max", toString limit)]⟩) ∧
      ∀ {τ : Type} (other : Device τ) (ctx' : ScrapeContext) (t : τ) envelopes',
        Envelope.Rearranged envelopes envelopes' →
        Lists other t path ctx'.options.maxBgpPaths envelopes' →
        ((r.collect ctx').run.run other t).value = .ok found := by
  -- Both routines count, each with the families of its protocol.
  obtain ⟨name, rfl, hpaths, hbest⟩ : ∃ name, r = countRoutine name path f ∧
      f.paths.labels = labelNames ∧ f.best.labels = labelNames := by
    simp only [List.mem_cons, Prod.mk.injEq, List.not_mem_nil, or_false] at hr
    rcases hr with ⟨rfl, rfl, rfl⟩ | ⟨rfl, rfl, rfl⟩
    · exact ⟨_, rfl, rfl, rfl⟩
    · exact ⟨_, rfl, rfl, rfl⟩
  obtain ⟨envelopes, hlists⟩ := lists_of_value_collect h
  obtain ⟨hvalue, hevents⟩ := value_collect_of_lists name f hlists
  obtain rfl : samples f envelopes = found := Except.ok.inj (hvalue.symm.trans h)
  obtain ⟨pairs, hsorted, hmem, hsamples⟩ := samples_eq_flatMap hpaths hbest envelopes
  -- No pair precedes itself.
  have hnodup : pairs.Nodup := hsorted.imp fun hlt => by
    rintro rfl
    exact lt_irrefl _ (keyOfPair_lt_iff.2 hlt)
  refine ⟨envelopes, pairs, hlists, hsorted, hnodup, hmem, hsamples,
    fun _ => List.countP_le_length, sum_length_pathsOf hnodup hmem, hevents, ?_⟩
  intro τ other ctx' t envelopes' hsame hlists'
  rw [samples_eq_of_rearranged f hsame]
  exact (value_collect_of_lists name f hlists').1

/-- A virtual domain in two envelopes around another one, the first with a full page. -/
theorem paths_counted_by_pair_spread :
    let path (neighbor : String) (best : Bool) : Json :=
      .obj [("learned_from", .str neighbor), ("is_best", .bool best)]
    let envelope (vdom : String) (paths : List Json) : Json :=
      .obj [("results", .arr paths), ("vdom", .str vdom)]
    let device := Device.ofFunction fun _ => .ok (.arr [
      envelope "root" [path "10.0.0.2" true, path "10.0.0.1" false],
      envelope "dmz" [path "10.0.0.1" false], envelope "root" [path "10.0.0.2" false]])
    let ctx : ScrapeContext := ⟨some ⟨7, 0⟩, none, { maxBgpPaths := 2 }⟩
    let run := (ipv4Routine.collect ctx).run.run device ()
    ∃ found envelopes, ∃ pairs : List (String × String), run.value = .ok found ∧
      found.map (fun x => (x.label? "vdom", x.label? "neighbor_ip", x.value)) = [
        (some "dmz", some "10.0.0.1", 1.0), (some "dmz", some "10.0.0.1", 0.0),
        (some "root", some "10.0.0.1", 1.0), (some "root", some "10.0.0.1", 0.0),
        (some "root", some "10.0.0.2", 2.0), (some "root", some "10.0.0.2", 1.0)] ∧
      run.events = [truncatedEvent "root" 2] ∧
      found = pairs.flatMap (pairSamples ipv4Families envelopes) := by
  intro path envelope device ctx run
  have hvalues : run.value.toOption.map (List.map fun x =>
      (x.label? "vdom", x.label? "neighbor_ip", x.value)) = some [
        (some "dmz", some "10.0.0.1", 1.0), (some "dmz", some "10.0.0.1", 0.0),
        (some "root", some "10.0.0.1", 1.0), (some "root", some "10.0.0.1", 0.0),
        (some "root", some "10.0.0.2", 2.0), (some "root", some "10.0.0.2", 1.0)] := by
    decide +kernel
  obtain ⟨found, hfound, hall⟩ := Except.map_toOption_eq_some_iff.1 hvalues
  obtain ⟨envelopes, pairs, -, -, -, -, hpairs, -⟩ :=
    paths_counted_by_pair List.mem_cons_self device ctx () hfound
  exact ⟨found, envelopes, pairs, hfound, hall, by decide +kernel, hpairs⟩

end BgpPath
end FirewallProbe
