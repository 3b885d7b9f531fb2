import FirewallProbe.Proofs.Answers
import FirewallProbe.Proofs.Exposition.Completeness

/-!
# No series of a scrape is lost

Resources that are listed by key give samples of different series, provided that no answer names a
virtual domain twice.  For licenses and BGP paths nothing has to be assumed: licenses are those of
the whole device, and paths are counted over all envelopes.  So the text of a scrape holds all
samples of these resources.

## Key results

- `keepsSeriesApart_of_keyed` / `keepsSeriesApart_of_counted`: the routines of such resources
- `nodup_series_block`: a turn of such a routine adds samples of different series
- `keyed_series_written`: the text of a scrape holds all of these samples
-/

namespace FirewallProbe

/-- The paths whose answers list resources of virtual domains by key. -/
def keyedPaths : List String := [
  "monitor/system/interface/select", "monitor/system/link-monitor",
  "monitor/virtual-wan/health-check", "monitor/system/vdom-resource", "monitor/vpn/ssl/stats",
  "monitor/vpn/ssl"]

/-- An answer at one of `keyedPaths` names no virtual domain twice. -/
def NamesDomainsOnce (e : Endpoint) (answer : Answer) : Prop :=
  e.path ∈ keyedPaths → (domainsOf answer).Nodup

/-- As long as each answer is as `given` says, the routine collects samples of different series. -/
def Routine.KeepsSeriesApart (given : Endpoint → Answer → Prop) (r : Routine) : Prop :=
  ∀ ctx, (r.collect ctx).Ensures given fun samples => (samples.map Sample.series).Nodup

/-! ## Routines -/

/-- `fetch` of one of `keyedPaths` gives envelopes of different virtual domains. -/
theorem Collection.ensures_fetch_domains {α : Type} [Inhabited α] (results : Decoder α)
    {path query : String} (hpath : path ∈ keyedPaths) :
    (fetch (Envelope.listDecoder results) path query).Ensures NamesDomainsOnce
      fun envelopes => (envelopes.map (·.vdom)).Nodup := by
  refine (ensures_fetch _ path query).mono fun envelopes ⟨answer, hanswer, hread⟩ => ?_
  exact map_vdom_eq_domainsOf hread ▸ hanswer hpath

theorem Interface.keepsSeriesApart_routine : routine.KeepsSeriesApart NamesDomainsOnce :=
  fun _ => (Collection.ensures_fetch_domains _ (by decide)).bind fun _ h =>
    Collection.ensures_pure (keyedBy_samplesOfAll h).nodup

namespace LinkFamilies

theorem keepsSeriesApart_routine {f : LinkFamilies}
    (hsound : StateFamily.IsSound ⟨f.status, f.states⟩) (hstatus : f.status.labels.length = 4)
    (hlabels : ∀ m ∈ f.measurements, m.family.labels.length = 3) (hnames : f.names.Nodup)
    (name : String) {path : String} (hpath : path ∈ keyedPaths) :
    (f.routine name path).KeepsSeriesApart NamesDomainsOnce :=
  fun _ => (Collection.ensures_fetch_domains _ hpath).bind fun _ h =>
    Collection.ensures_pure (keyedBy_samplesOfAll hsound hstatus hlabels hnames h).nodup

end LinkFamilies

theorem LinkMonitor.keepsSeriesApart_routine : routine.KeepsSeriesApart NamesDomainsOnce :=
  LinkFamilies.keepsSeriesApart_routine (by decide +kernel) rfl (by decide) (by decide) _
    (by decide)

theorem WanHealth.keepsSeriesApart_routine : routine.KeepsSeriesApart NamesDomainsOnce :=
  LinkFamilies.keepsSeriesApart_routine (by decide +kernel) rfl (by decide) (by decide) _
    (by decide)

theorem VirtualDomain.keepsSeriesApart_routine : routine.KeepsSeriesApart NamesDomainsOnce := by
  intro ctx
  refine (Collection.ensures_fetch_domains _ (by decide)).bind fun envelopes h => ?_
  show (routine.liftExcept (samplesOfAll envelopes)).Ensures _ _
  cases hall : samplesOfAll envelopes with
  | error cause => exact trivial
  | ok all => exact (keyedBy_samplesOfAll hall h).nodup

theorem SslVpn.keepsSeriesApart_routine : routine.KeepsSeriesApart NamesDomainsOnce :=
  fun _ => (Collection.ensures_fetch_domains _ (by decide)).bind fun _ hstats =>
    (Collection.ensures_fetch_domains _ (by decide)).bind fun _ hsessions =>
      Collection.ensures_pure <| KeyedBy.nodup <|
        (keyedBy_statsSamples hstats).append (keyedBy_sessionSamples hsessions) (by decide)

variable {given : Endpoint → Answer → Prop}

theorem License.keepsSeriesApart_routine : routine.KeepsSeriesApart given :=
  fun _ => (Collection.ensures_fetch _ _ _).bind fun e _ =>
    Collection.ensures_pure (keyedBy_samples e.results).nodup

theorem BgpPath.keepsSeriesApart_countRoutine (name path : String) {f : Families}
    (hpaths : f.paths.labels.length = 2) (hbest : f.best.labels.length = 2)
    (hne : f.paths.name ≠ f.best.name) : (countRoutine name path f).KeepsSeriesApart given :=
  fun _ => (Collection.ensures_fetch _ _ _).bind fun envelopes _ =>
    Collection.ensures_ofLogged (keyedBy_samples hpaths hbest hne envelopes).nodup

/-- The routines of resources that are listed by key. -/
def keyedRoutines : List Routine :=
  [Interface.routine, LinkMonitor.routine, WanHealth.routine, VirtualDomain.routine, SslVpn.routine]

/-- The routines of resources that are counted over all envelopes, or of the whole device. -/
def countedRoutines : List Routine := [License.routine, BgpPath.ipv4Routine, BgpPath.ipv6Routine]

/-- The `keyedRoutines` keep series apart if answers name no virtual domain twice. -/
theorem keepsSeriesApart_of_keyed : ∀ r ∈ keyedRoutines, r.KeepsSeriesApart NamesDomainsOnce := by
  intro r hr
  simp only [keyedRoutines, List.mem_cons, List.not_mem_nil, or_false] at hr
  rcases hr with rfl | rfl | rfl | rfl | rfl
  · exact Interface.keepsSeriesApart_routine
  · exact LinkMonitor.keepsSeriesApart_routine
  · exact WanHealth.keepsSeriesApart_routine
  · exact VirtualDomain.keepsSeriesApart_routine
  · exact SslVpn.keepsSeriesApart_routine

/-- The `countedRoutines` keep series apart whatever is answered. -/
theorem keepsSeriesApart_of_counted : ∀ r ∈ countedRoutines, r.KeepsSeriesApart given := by
  intro r hr
  simp only [countedRoutines, List.mem_cons, List.not_mem_nil, or_false] at hr
  rcases hr with rfl | rfl | rfl
  · exact License.keepsSeriesApart_routine
  · exact BgpPath.keepsSeriesApart_countRoutine _ _ rfl rfl (by decide)
  · exact BgpPath.keepsSeriesApart_countRoutine _ _ rfl rfl (by decide)

/-- A routine of the table is found by its name among a `few` of them. -/
theorem mem_of_name_mem {few : List Routine} (hfew : few ⊆ routineTable) {r : Routine}
    (hr : r ∈ routineTable) (hname : r.name ∈ few.map (·.name)) : r ∈ few := by
  obtain ⟨own, hown, heq⟩ := List.mem_map.1 hname
  exact List.inj_on_of_nodup_map Scrape.nodup_names_routineTable (hfew hown) hr heq ▸ hown

theorem keyedRoutines_subset : keyedRoutines ⊆ routineTable := by
  simp [keyedRoutines, routineTable]

theorem countedRoutines_subset : countedRoutines ⊆ routineTable := by
  simp [countedRoutines, routineTable]

/-! ## Turns -/

namespace Scrape

variable {σ : Type} {device : Device σ} {options : ProbeOptions} {s : σ}

/-- What a turn is answered is part of what the scrape is answered. -/
theorem replies_subset {before after : List (Turn σ)} {t : Turn σ}
    (h : turnsOf device routineTable options s = before ++ t :: after) :
    device.replies (device.after s (⟨SystemStatus.path, ""⟩ :: before.flatMap (·.calls))) t.calls ⊆
      device.replies s ((scrape options).run device s).calls := by
  have hcalls : ((scrape options).run device s).calls =
      (⟨SystemStatus.path, ""⟩ :: before.flatMap (·.calls)) ++
        (t.calls ++ after.flatMap (·.calls)) := by
    rw [calls_scrape_eq, h, List.flatMap_append, List.flatMap_cons, List.cons_append]
  rw [hcalls, Device.replies_append, Device.replies_append]
  exact List.subset_append_of_subset_right _ (List.subset_append_left _ _)

/-- A routine that keeps series apart adds samples of different series. -/
theorem nodup_series_block {given : Endpoint → Answer → Prop} {ctx : ScrapeContext} {s : σ}
    {t : Turn σ} (ht : t = turn device ctx t.routine s) (h : t.routine.KeepsSeriesApart given)
    (hgiven : ∀ r ∈ device.replies s t.calls, given r.1 r.2) :
    (t.block.map Sample.series).Nodup := by
  cases hbody : t.body? with
  | none => simp [Turn.block, Turn.outcome, hbody, RoutineOutcome.samples]
  | some body =>
    have hrun := body?_eq_of_ne_none device ht (by simp [hbody])
    obtain rfl : body = (t.routine.collect ctx).run.run device s :=
      Option.some.inj (hbody.symm.trans hrun)
    have hcalls : t.calls = ((t.routine.collect ctx).run.run device s).calls := by
      simp [Turn.calls, hbody]
    -- The body is bounded by what it was answered, which the hypothesis is about.
    have hvalue := (h ctx).of_run device s (hcalls ▸ hgiven)
    cases hresult : ((t.routine.collect ctx).run.run device s).value with
    | ok samples =>
      rw [hresult] at hvalue
      simpa [Turn.block, Turn.outcome, hbody, hresult, RoutineOutcome.samples] using hvalue
    | error cause =>
      simp [Turn.block, Turn.outcome, hbody, hresult, RoutineOutcome.samples]

/-! ## Scrapes -/

/-- No two turns of a scrape are of routines of one name. -/
theorem nodup_names_turnsOf (device : Device σ) (options : ProbeOptions) (s : σ) :
    ((turnsOf device routineTable options s).map (·.routine.name)).Nodup := by
  have hnames : (turnsOf device routineTable options s).map (·.routine.name) =
      (chosen options routineTable).map (·.name) := by
    rw [← map_routine_turnsOf device options s, List.map_map]
    rfl
  rw [hnames]
  exact nodup_names_routineTable.sublist (List.filter_sublist.map _)

/-- The samples that routines with the given `names` add to a scrape. -/
def samplesOf (device : Device σ) (options : ProbeOptions) (s : σ) (names : List String) :
    List Sample :=
  ((turnsOf device routineTable options s).filter fun t => t.routine.name ∈ names).flatMap (·.block)

/-- Different routines add samples of different series, so those of `samplesOf` are different. -/
theorem nodup_series_samplesOf {names : List String}
    (h : ∀ t ∈ turnsOf device routineTable options s, t.routine.name ∈ names →
      (t.block.map Sample.series).Nodup) :
    ((samplesOf device options s names).map Sample.series).Nodup := by
  rw [samplesOf, List.map_flatMap, List.nodup_flatMap]
  refine ⟨fun t ht => ?_, ?_⟩
  · exact h t (List.mem_of_mem_filter ht) (of_decide_eq_true (List.mem_filter.1 ht).2)
  -- A series has a name, and a name belongs to one routine.
  · have hne := (List.pairwise_map.1 (nodup_names_turnsOf device options s)).filter
      fun t => t.routine.name ∈ names
    refine hne.imp_of_mem fun {t u} ht hu hne series hst hsu => hne ?_
    obtain ⟨x, hx, rfl⟩ := List.mem_map.1 hst
    obtain ⟨y, hy, heq⟩ := List.mem_map.1 hsu
    have hname : x.name = y.name := (congrArg Prod.fst heq).symm
    rw [routine_eq_of_name_eq (List.mem_of_mem_filter ht) (List.mem_of_mem_filter hu) hx hy hname]

/-- All samples with the name of one sample `x` come from the same routine. -/
theorem filter_name_samplesOf {names : List String} {x : Sample}
    (hx : x ∈ samplesOf device options s names) :
    (((scrape options).run device s).value.samples.filter fun y => y.name = x.name) =
      (samplesOf device options s names).filter fun y => y.name = x.name := by
  obtain ⟨t, ht, hxt⟩ := List.mem_flatMap.1 hx
  obtain ⟨hmem, hname⟩ := List.mem_filter.1 ht
  rw [samples_scrape, samplesOf, List.filter_flatMap, List.filter_flatMap]
  -- A turn of any other routine has no sample of this name.
  refine (List.flatMap_filter_of_eq_nil fun u hu hother => ?_).symm
  refine List.filter_eq_nil_iff.2 fun y hy hyx => of_decide_eq_false hother ?_
  rw [routine_eq_of_name_eq hu hmem hy hxt (of_decide_eq_true hyx)]
  exact of_decide_eq_true hname

/-- `render` writes all samples of routines that keep series apart. -/
theorem writesEach_samplesOf {given : Endpoint → Answer → Prop} {names : List String}
    (h : ∀ r ∈ routineTable, r.name ∈ names → r.KeepsSeriesApart given)
    (hgiven : ∀ r ∈ device.replies s ((scrape options).run device s).calls, given r.1 r.2)
    (success : Bool) (duration : Duration) :
    Exposition.WritesEach
      (Exposition.render ((scrape options).run device s).value.samples success duration)
      (samplesOf device options s names) := by
  have hemits : Emits catalog ((scrape options).run device s).value.samples :=
    emits_samples_run device staysIn_routineTable options s
  have hnamed := Exposition.isWellNamed_of_emits hemits
  -- A routine was answered in its own turn, and so by answers that are `given`.
  have hblock : ∀ t ∈ turnsOf device routineTable options s, t.routine.name ∈ names →
      (t.block.map Sample.series).Nodup := by
    intro t ht hname
    obtain ⟨before, after, hsplit⟩ := List.append_of_mem ht
    obtain ⟨hmem, hturn⟩ := turn_of_turnsOf_append device hsplit
    exact nodup_series_block hturn (h _ hmem hname) fun r hr =>
      hgiven r (replies_subset hsplit hr)
  refine Exposition.writesEach_render (fun x hx => (hnamed x hx).1) (fun x hx => (hnamed x hx).2)
    (fun x hx => ⟨?_, filter_name_samplesOf hx⟩) (nodup_series_samplesOf hblock) success duration
  obtain ⟨t, ht, hxt⟩ := List.mem_flatMap.1 hx
  rw [samples_scrape]
  exact List.mem_flatMap_of_mem (List.mem_of_mem_filter ht) hxt

/-- No sample of licenses and BGP paths is lost in the text of a scrape, whatever the device
answers: all are of different series, each is written, and none is noted as a duplicate.  The same
holds together with the `keyedRoutines`, provided that none of the answers about these names a
virtual domain twice. -/
theorem keyed_series_written (device : Device σ) (options : ProbeOptions) (s : σ) (success : Bool)
    (duration : Duration) :
    let run := (scrape options).run device s
    let out := Exposition.render run.value.samples success duration
    let counted := ["license_status", "bgp_paths_ipv4", "bgp_paths_ipv6"]
    let keyed := ["interfaces", "system_link_monitor", "virtual_wan_health",
      "system_vdom_resources", "ssl_vpn"]
    (∀ names ⊆ counted, Exposition.WritesEach out (samplesOf device options s names)) ∧
    ((∀ reply ∈ device.replies s run.calls, reply.1.path ∈ keyedPaths →
        (domainsOf reply.2).Nodup) →
      ∀ names ⊆ keyed ++ counted,
        Exposition.WritesEach out (samplesOf device options s names)) := by
  intro run out counted keyed
  have hcounted : ∀ given, ∀ r ∈ routineTable, r.name ∈ counted → r.KeepsSeriesApart given :=
    fun given r hr hname =>
      keepsSeriesApart_of_counted r (mem_of_name_mem countedRoutines_subset hr hname)
  have hkeyed : ∀ r ∈ routineTable, r.name ∈ keyed → r.KeepsSeriesApart NamesDomainsOnce :=
    fun r hr hname =>
      keepsSeriesApart_of_keyed r (mem_of_name_mem keyedRoutines_subset hr hname)
  refine ⟨fun names hnames => ?_, fun hgiven names hnames => ?_⟩
  -- Routines that count need nothing of the answers.
  · have hfree : ∀ r ∈ routineTable, r.name ∈ names → r.KeepsSeriesApart fun _ _ => True :=
      fun r hr hname => hcounted _ r hr (hnames hname)
    exact writesEach_samplesOf hfree (fun _ _ => trivial) success duration
  · have hapart : ∀ r ∈ routineTable, r.name ∈ names → r.KeepsSeriesApart NamesDomainsOnce :=
      fun r hr hname => (List.mem_append.1 (hnames hname)).elim (hkeyed r hr) (hcounted _ r hr)
    exact writesEach_samplesOf hapart hgiven success duration

/-- Two virtual domains with an interface of the same name: all of its 16 series are written. -/
theorem keyed_series_written_interfaces :
    let port : Json := .obj [("port1", .obj [("alias", .str "uplink"), ("link", .bool true)])]
    let interfaces : Json := .arr [
      .obj [("results", port), ("vdom", .str "root")],
      .obj [("results", port), ("vdom", .str "dmz")]]
    let device : Device Unit := .ofFunction (answersFrom
      [("monitor/system/interface/select", .ok interfaces)] (.error (.timeout "other")))
    let run := (scrape {}).run device ()
    let own := samplesOf device {} () ["interfaces"]
    own.length = 16 ∧
      Exposition.WritesEach (Exposition.render run.value.samples run.value.isOk (.ofSeconds 2))
        own := by
  intro port interfaces device run own
  have hlength : own.length = 16 := by decide +kernel
  have hdomains : (domainsOf (.ok interfaces)).Nodup := by decide +kernel
  have hreplies : ∀ reply ∈ device.replies () run.calls, (domainsOf reply.2).Nodup := by
    intro reply hreply
    rw [Device.replies_ofFunction] at hreply
    obtain ⟨e, -, rfl⟩ := List.mem_map.1 hreply
    rw [answersFrom, List.lookup_cons]
    split
    · exact hdomains
    · exact List.nodup_nil
  exact ⟨hlength, (keyed_series_written device {} () run.value.isOk (.ofSeconds 2)).2
    (fun reply hreply _ => hreplies reply hreply) ["interfaces"] (by decide)⟩

end Scrape
end FirewallProbe
