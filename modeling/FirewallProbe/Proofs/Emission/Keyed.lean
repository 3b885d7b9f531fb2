import FirewallProbe.Proofs.Emission.Consistency
import FirewallProbe.Proofs.Grouping

/-!
# Series that are told apart by keys

The text of a scrape holds a series once, so a second sample of it is lost.  `KeyedBy` says that
this does not happen among some samples, and how the samples of many entities are put together
without loss: those of each entity begin with the label values that are its key, and no two
entities have the same key.

## Key results

- `KeyedBy.append` / `keyedBy_flatMap`: how samples are put together without loss
- `keyedBy_measurements` / `keyedBy_states`: the samples of one entity
- `keyedBy_samples` / `keyedBy_samplesOfAll`: the samples of resources that are listed by key
-/

namespace FirewallProbe

/-- The label values of a sample. -/
def Sample.values (s : Sample) : List String := s.labels.map (·.2)

/-- What a sample has in common with no other sample that is written. -/
def Sample.series (s : Sample) : String × List (String × String) := (s.name, s.labels)

/-- The `samples` are of different series, their names are among `names`, and their label values
begin with `values`. -/
structure KeyedBy (values names : List String) (samples : List Sample) : Prop where
  nodup : (samples.map Sample.series).Nodup
  name_mem : ∀ x ∈ samples, x.name ∈ names
  front : ∀ x ∈ samples, values <+: x.values

section KeyedBy

variable {α : Type} {values names others : List String} {samples xs ys : List Sample}

theorem keyedBy_nil : KeyedBy values names [] := ⟨List.nodup_nil, by simp, by simp⟩

/-- Samples that begin with `values` begin with every prefix of them. -/
theorem KeyedBy.mono (h : KeyedBy values names samples) {fewer : List String}
    (hfewer : fewer <+: values) : KeyedBy fewer names samples :=
  ⟨h.nodup, h.name_mem, fun x hx => hfewer.trans (h.front x hx)⟩

/-- Samples whose families have other names have no series in common. -/
theorem KeyedBy.append (hx : KeyedBy values names xs) (hy : KeyedBy values others ys)
    (hnames : (names ++ others).Nodup) : KeyedBy values (names ++ others) (xs ++ ys) where
  nodup := by
    have hdisjoint := (List.nodup_append'.1 hnames).2.2
    rw [List.map_append, List.nodup_append']
    refine ⟨hx.nodup, hy.nodup, fun key hkx hky => ?_⟩
    obtain ⟨x, hxmem, rfl⟩ := List.mem_map.1 hkx
    obtain ⟨y, hymem, heq⟩ := List.mem_map.1 hky
    have hname : y.name = x.name := congrArg Prod.fst heq
    exact hdisjoint (hx.name_mem x hxmem) (hname ▸ hy.name_mem y hymem)
  name_mem x h := List.mem_append.2 ((List.mem_append.1 h).imp (hx.name_mem x) (hy.name_mem x))
  front x h := (List.mem_append.1 h).elim (hx.front x) (hy.front x)

/-- Entities with different values of `key`, all of the length `n`, have no series in common. -/
theorem keyedBy_flatMap {as : List α} {f : α → List Sample} {key : α → List String} {n : Nat}
    (hlength : ∀ a ∈ as, (key a).length = n) (hkeys : (as.map key).Nodup)
    (h : ∀ a ∈ as, KeyedBy (values ++ key a) names (f a)) :
    KeyedBy values names (as.flatMap f) where
  nodup := by
    rw [List.map_flatMap, List.nodup_flatMap]
    refine ⟨fun a ha => (h a ha).nodup, (List.pairwise_map.1 hkeys).imp_of_mem ?_⟩
    intro a b ha hb hne series hsa hsb
    obtain ⟨x, hx, rfl⟩ := List.mem_map.1 hsa
    obtain ⟨y, hy, heq⟩ := List.mem_map.1 hsb
    -- Both keys follow the common values in the label values of one series.
    have hvalues : y.values = x.values := congrArg (fun s => s.2.map (·.2)) heq
    have hlen : (values ++ key a).length = (values ++ key b).length := by
      rw [List.length_append, List.length_append, hlength a ha, hlength b hb]
    have hstart : values ++ key a <+: values ++ key b :=
      List.prefix_of_prefix_length_le ((h a ha).front x hx)
        (hvalues ▸ (h b hb).front y hy) hlen.le
    exact hne (List.append_cancel_left (hstart.eq_of_length hlen))
  name_mem x hx := by
    obtain ⟨a, ha, hx⟩ := List.mem_flatMap.1 hx
    exact (h a ha).name_mem x hx
  front x hx := by
    obtain ⟨a, ha, hx⟩ := List.mem_flatMap.1 hx
    exact (List.prefix_append _ _).trans ((h a ha).front x hx)

/-- Entities that are told apart by one label value. -/
theorem keyedBy_flatMap_of_key {as : List α} {f : α → List Sample} {key : α → String}
    (hkeys : (as.map key).Nodup) (h : ∀ a ∈ as, KeyedBy (values ++ [key a]) names (f a)) :
    KeyedBy values names (as.flatMap f) := by
  have hkeys' : (as.map fun a => [key a]).Nodup := by
    have hmap : (as.map fun a => [key a]) = (as.map key).map fun k => [k] := by simp
    exact hmap ▸ hkeys.map fun _ _ heq => List.singleton_inj.1 heq
  exact keyedBy_flatMap (n := 1) (fun _ _ => rfl) hkeys' h

/-- The entries of a dictionary are told apart by their keys. -/
theorem keyedBy_entries (d : Dict α) {f : String × α → List Sample}
    (h : ∀ e ∈ d.entries, KeyedBy (values ++ [e.1]) names (f e)) :
    KeyedBy values names (d.entries.flatMap f) :=
  keyedBy_flatMap_of_key (List.pairwise_map.2 (d.sorted.imp fun hlt => hlt.ne)) h

/-! ## Single entities -/

/-- A sample has the values that it was made with, one for each label of `f`. -/
theorem Family.values_sample (f : Family) (value : Float) (h : values.length = f.labels.length) :
    (f.sample value values).values = values := by
  simp [Sample.values, Family.sample, List.map_snd_zip, h]

/-- One sample is keyed by all its values. -/
theorem keyedBy_single (f : Family) (value : Float) (h : values.length = f.labels.length) :
    KeyedBy values [f.name] [f.sample value values] :=
  ⟨List.nodup_singleton _, by simp, by simp [f.values_sample value h]⟩

/-- A sample that may be missing is keyed by its values too. -/
theorem keyedBy_toList (f : Family) (a : Option α) (value : α → Float)
    (h : values.length = f.labels.length) :
    KeyedBy values [f.name] (a.map fun x => f.sample (value x) values).toList := by
  cases a with
  | none => exact keyedBy_nil
  | some x => exact keyedBy_single f (value x) h

/-- `Measurement.samples` has at most one sample for each family of the `table`, in its order. -/
private theorem name_samples_sublist (table : List (Measurement α)) (labels : List String) (a : α) :
    ((Measurement.samples table labels a).map (·.name)).Sublist (table.map (·.family.name)) := by
  induction table with
  | nil => exact List.Sublist.refl _
  | cons m rest ih =>
    rw [List.map_cons]
    cases hvalue : m.value? a with
    | none => simpa [Measurement.samples, Measurement.sample?, hvalue] using ih.cons _
    | some value => simpa [Measurement.samples, Measurement.sample?, hvalue] using ih

/-- `Measurement.samples` are told apart by the names of their families. -/
theorem keyedBy_measurements {table : List (Measurement α)} {a : α}
    (hnames : (table.map (·.family.name)).Nodup)
    (hlabels : ∀ m ∈ table, m.family.labels.length = values.length) :
    KeyedBy values (table.map (·.family.name)) (Measurement.samples table values a) where
  nodup := by
    refine List.Nodup.of_map Prod.fst ?_
    rw [List.map_map]
    exact hnames.sublist (name_samples_sublist table values a)
  name_mem x hx := (name_samples_sublist table values a).subset (List.mem_map_of_mem hx)
  front x hx := by
    obtain ⟨m, hm, hsample⟩ := List.mem_filterMap.1 hx
    obtain ⟨value, -, rfl⟩ := Option.map_eq_some_iff.1 hsample
    simp [m.family.values_sample value (hlabels m hm).symm]

/-- `samplePerState` is told apart by the last label, which is the state. -/
theorem keyedBy_states {f : StateFamily} (h : f.IsSound) {status : String}
    (hlength : values.length + 1 = f.family.labels.length) :
    KeyedBy values [f.family.name] (f.family.samplePerState values status f.known) := by
  rw [h.samplePerState_eq hlength]
  refine ⟨?_, fun x hx => ?_, fun x hx => ?_⟩
  · rw [List.map_map]
    refine h.nodup.map fun state other heq => ?_
    simpa [Sample.series] using heq
  · obtain ⟨state, -, rfl⟩ := List.mem_map.1 hx
    exact List.mem_singleton_self _
  · obtain ⟨state, -, rfl⟩ := List.mem_map.1 hx
    have hkeys : f.keys.length = values.length := by
      rw [h.labels, List.length_append, List.length_singleton] at hlength
      omega
    simp [Sample.values, List.map_snd_zip, hkeys]

end KeyedBy

/-! ## Resources -/

namespace Interface

/-- Interfaces are told apart by virtual domain and key. -/
theorem keyedBy_samplesOfAll {envelopes : List (Envelope (Dict Interface))}
    (h : (envelopes.map (·.vdom)).Nodup) :
    KeyedBy [] (measurements.map (·.family.name)) (samplesOfAll envelopes) := by
  have hnames : (measurements.map (·.family.name)).Nodup := by decide
  refine keyedBy_flatMap_of_key h fun e _ => keyedBy_entries e.results fun entry _ => ?_
  have hentry : KeyedBy [e.vdom, entry.1, entry.2.aliasName, entry.2.parent]
      (measurements.map (·.family.name)) (samples e.vdom entry.1 entry.2) :=
    keyedBy_measurements hnames length_labels
  -- Alias and parent follow the key, so they tell no series apart that the key does not.
  exact hentry.mono (List.prefix_append [e.vdom, entry.1] _)

end Interface

namespace LinkFamilies

/-- The names of the families of one kind of link. -/
def names (f : LinkFamilies) : List String := f.status.name :: f.measurements.map (·.family.name)

/-- Links are told apart by virtual domain, monitor and interface. -/
theorem keyedBy_samplesOfAll {f : LinkFamilies} (hsound : StateFamily.IsSound ⟨f.status, f.states⟩)
    (hstatus : f.status.labels.length = 4)
    (hlabels : ∀ m ∈ f.measurements, m.family.labels.length = 3) (hnames : f.names.Nodup)
    {envelopes : List (Envelope Links)} (h : (envelopes.map (·.vdom)).Nodup) :
    KeyedBy [] f.names (f.samplesOfAll envelopes) := by
  have hmeasurements := (List.nodup_cons.1 hnames).2
  -- One key for each level: the virtual domain, the monitor and the interface.
  refine keyedBy_flatMap_of_key h fun e _ => ?_
  refine keyedBy_entries e.results fun monitor _ => ?_
  refine keyedBy_entries monitor.2 fun interface _ => ?_
  have hstates : KeyedBy [e.vdom, monitor.1, interface.1] [f.status.name]
      (f.status.samplePerState [e.vdom, monitor.1, interface.1] interface.2.status f.states) :=
    keyedBy_states hsound hstatus.symm
  exact hstates.append (keyedBy_measurements hmeasurements hlabels) hnames

end LinkFamilies

namespace VirtualDomain

/-- The names of the families of a virtual domain's usage. -/
def names : List String :=
  DomainUsage.measurements.map (·.family.name) ++ ObjectUsage.measurements.map (·.family.name)

/-- The usage of a virtual domain as a whole has families of its own, and that of its resources is
told apart by their names. -/
theorem keyedBy_samples (vdom : String) (r : Resources) :
    KeyedBy [vdom] names (samples vdom r) := by
  have hnames : names.Nodup := by decide
  obtain ⟨hdomain, hobject, -⟩ := List.nodup_append'.1 hnames
  have hfixed : KeyedBy [vdom] (DomainUsage.measurements.map (·.family.name))
      (Measurement.samples DomainUsage.measurements [vdom] r.fixed) :=
    keyedBy_measurements hdomain DomainUsage.length_labels
  refine hfixed.append (keyedBy_entries r.dynamic fun entry _ => ?_) hnames
  exact keyedBy_measurements hobject ObjectUsage.length_labels

/-- Resources are told apart by virtual domain and name. -/
theorem keyedBy_samplesOfAll {envelopes : List (Envelope Json)} {all : List Sample}
    (hall : samplesOfAll envelopes = .ok all) (h : (envelopes.map (·.vdom)).Nodup) :
    KeyedBy [] names all := by
  obtain ⟨parts, hdomains, rfl⟩ := exists_parts_of_samplesOfAll hall
  exact keyedBy_flatMap_of_key (hdomains ▸ h) fun p _ => keyedBy_samples p.1 p.2

end VirtualDomain

namespace SslVpn

/-- The names of the families of the totals. -/
def statsNames : List String := measurements.map (·.family.name)

/-- The names of the families of users. -/
def sessionNames : List String := [userSessions.name] ++ [userTunnels.name]

/-- The totals are told apart by virtual domain. -/
theorem keyedBy_statsSamples {envelopes : List (Envelope SslStats)}
    (h : (envelopes.map (·.vdom)).Nodup) : KeyedBy [] statsNames (statsSamples envelopes) := by
  have hnames : statsNames.Nodup := by decide
  exact keyedBy_flatMap_of_key h fun _ _ => keyedBy_measurements hnames length_labels

/-- `domainSamples` counts the sessions of one user as one entity. -/
theorem keyedBy_domainSamples (vdom : String) (sessions : List SslSession) :
    KeyedBy [vdom] sessionNames (domainSamples vdom sessions) := by
  refine keyedBy_flatMap_of_key (nodup_map_fst_group _ _) fun own _ => ?_
  have hsessions : KeyedBy [vdom, own.1] [userSessions.name] _ :=
    keyedBy_single userSessions (Binary64.ofInt own.2.length) rfl
  exact hsessions.append (keyedBy_single userTunnels _ rfl) (by decide)

/-- Users are told apart by virtual domain and name. -/
theorem keyedBy_sessionSamples {envelopes : List (Envelope (List SslSession))}
    (h : (envelopes.map (·.vdom)).Nodup) : KeyedBy [] sessionNames (sessionSamples envelopes) :=
  keyedBy_flatMap_of_key h fun e _ => keyedBy_domainSamples e.vdom e.results

end SslVpn

/-- `BgpPath.samples` has one count for each pair of virtual domain and neighbour, in whichever
envelope the paths are. -/
theorem BgpPath.keyedBy_samples {f : Families} (hpaths : f.paths.labels.length = 2)
    (hbest : f.best.labels.length = 2) (hne : f.paths.name ≠ f.best.name)
    (envelopes : List (Envelope (List BgpPath))) :
    KeyedBy [] ([f.paths.name] ++ [f.best.name]) (samples f envelopes) := by
  -- The groups are made over all envelopes at once, so each pair has one group.
  have hlength : ∀ g ∈ group (fun p : String × BgpPath => [p.1, p.2.learnedFrom])
      (Envelope.perResult envelopes), g.1.length = 2 := by
    intro g hg
    obtain ⟨key, hkey, rfl⟩ := List.mem_map.1 hg
    obtain ⟨p, -, rfl⟩ := List.mem_map.1 (mem_distinctKeys.1 hkey)
    rfl
  refine keyedBy_flatMap hlength (nodup_map_fst_group _ _) fun g hg => ?_
  exact (keyedBy_single f.paths _ ((hlength g hg).trans hpaths.symm)).append
    (keyedBy_single f.best _ ((hlength g hg).trans hbest.symm)) (by simpa using hne)

namespace License

/-- The names of the families of an entitlement. -/
def entitlementNames : List String := [entitlementStatus.name] ++ [entitlementExpiry.name]

/-- The names of the families of licenses. -/
def names : List String :=
  [domainsUsed.name] ++ [domainsAvailable.name] ++ [registrationStatus.name] ++ entitlementNames

/-- An entitlement has one series for its status and one for its expiry. -/
theorem keyedBy_entitlementSamples (name : String) (e : Entitlement) :
    KeyedBy [name] entitlementNames (entitlementSamples name e) := by
  have hsound : StateFamily.IsSound ⟨entitlementStatus, entitlementStates⟩ := by decide +kernel
  have hstates : KeyedBy [name] [entitlementStatus.name]
      (entitlementStatus.samplePerState [name] e.status entitlementStates) :=
    keyedBy_states hsound rfl
  exact hstates.append (keyedBy_toList entitlementExpiry e.expires id rfl) (by decide)

/-- A license answer has no series twice: its sections have families of their own, and the
entitlements are told apart by their keys. -/
theorem keyedBy_samples (license : MixedRecord LicenseSections Entitlement) :
    KeyedBy [] names (samples license) := by
  have hsound : StateFamily.IsSound ⟨registrationStatus, registrationStates⟩ := by decide +kernel
  have hregistration : KeyedBy [] [registrationStatus.name]
      (registrationStatus.samplePerState [] license.fixed.registration.status
        registrationStates) := keyedBy_states hsound rfl
  have hentries : KeyedBy [] entitlementNames
      (license.dynamic.entries.flatMap fun e => entitlementSamples e.1 e.2) :=
    keyedBy_entries license.dynamic fun e _ => keyedBy_entitlementSamples e.1 e.2
  have hused : KeyedBy [] [domainsUsed.name]
      (optionalSample domainsUsed [] license.fixed.domains.used) :=
    keyedBy_toList domainsUsed license.fixed.domains.used id rfl
  have havailable : KeyedBy [] [domainsAvailable.name]
      (optionalSample domainsAvailable [] license.fixed.domains.available) :=
    keyedBy_toList domainsAvailable license.fixed.domains.available id rfl
  -- The families have different names, so their samples have no series in common.
  exact ((hused.append havailable (by decide)).append hregistration (by decide)).append hentries
    (by decide)

end License
end FirewallProbe
