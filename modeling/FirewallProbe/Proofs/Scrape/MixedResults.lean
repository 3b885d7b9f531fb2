import FirewallProbe.Proofs.Collected
import FirewallProbe.Proofs.Schema.Contents
import FirewallProbe.Proofs.Schema.Partition
import FirewallProbe.Resource.License
import FirewallProbe.Resource.VirtualDomain

/-!
# Routines whose answers mix fixed and dynamic keys

The usage of a virtual domain and the licenses of the device are objects with a few known keys and
one entry for every other key.  No other key is lost: each of them is reported once, in the order of
the keys.  One of the routines splits the results of each envelope after all envelopes were read,
the other while it reads its envelope, so they fail in different ways, but neither reports a part.

## Key results

- `VirtualDomain.samples_eq_reported`: the samples of a virtual domain, read off its results
- `VirtualDomain.samplesOfAll_eq_ok_iff` / `samplesOfAll_eq_error_iff`: all virtual domains
- `License.samples_eq_append`: the samples of licenses
- `VirtualDomain.usage_complete` / `License.entitlements_complete`: each of the routines
- `mixed_results_complete`: both of them
-/

namespace FirewallProbe

open Text (bytesOf)

/-- Numbers whose keys are in `names` are what the whole object has under them. -/
theorem ReportedNumber.samples_fixedMembers {α : Type} {table : List (ReportedNumber α)}
    {names : List String} (h : ∀ n ∈ table, n.key ∈ names) (labels : List (String × String))
    (members : List (String × Json)) :
    samples table labels (MixedRecord.fixedMembers names members) =
      samples table labels members := by
  refine List.map_congr_left fun n hn => ?_
  have hnamed : names.contains n.key = true := by simpa using h n hn
  rw [Json.numberAt, Json.numberAt, MixedRecord.fixedMembers, valueAt?_filter hnamed]

/-! ## Usage of virtual domains -/

namespace DomainUsage

/-- The numbers of a virtual domain as a whole, each with the key under which it is answered. -/
def reported : List (ReportedNumber DomainUsage) := [
  ⟨"cpu", (·.cpu), percentToRatio, cpuUsage⟩,
  ⟨"memory", (·.memory), percentToRatio, memoryUsage⟩,
  ⟨"setup_rate", (·.setupRate), fun rate => rate, setupRateFamily⟩]

/-- The record of a virtual domain has the numbers that are `reported` of it. -/
theorem areShownBy_reported : ReportedNumber.AreShownBy reported record ["vdom"] where
  names := by decide
  shown n hn := by
    simp only [reported, List.mem_cons, List.not_mem_nil, or_false] at hn
    rcases hn with rfl | rfl | rfl
    all_goals exact Record.isShownBy_number (by decide) rfl (fun _ _ => rfl) (by simp [record])
  blank := by simp [reported, record]
  labels := by simp [reported, cpuUsage, memoryUsage, setupRateFamily, Family.gauge]

theorem measurements_eq_map : measurements = reported.map ReportedNumber.measurement := rfl

end DomainUsage

namespace ObjectUsage

/-- The numbers of a type of object, each with the key under which it is answered. -/
def reported : List (ReportedNumber ObjectUsage) := [
  ⟨"current_usage", (·.used), id, usedFamily⟩,
  ⟨"usage_percent", (·.percent), percentToRatio, usageRatio⟩,
  ⟨"custom_max", (·.quota), id, quotaFamily⟩,
  ⟨"guaranteed", (·.guaranteed), id, guaranteedFamily⟩]

/-- The record of a type of object has the numbers that are `reported` of it. -/
theorem areShownBy_reported : ReportedNumber.AreShownBy reported record labelNames where
  names := by decide
  shown n hn := by
    simp only [reported, List.mem_cons, List.not_mem_nil, or_false] at hn
    rcases hn with rfl | rfl | rfl | rfl
    all_goals exact Record.isShownBy_number (by decide) rfl (fun _ _ => rfl) (by simp [record])
  blank := by simp [reported, record]
  labels := by
    simp [reported, usedFamily, usageRatio, quotaFamily, guaranteedFamily, Family.gauge]

theorem measurements_eq_map : measurements = reported.map ReportedNumber.measurement := rfl

end ObjectUsage

namespace VirtualDomain

/-- What is reported about a virtual domain, read off its results: the domain as a whole, and then
each type of object. -/
def reported (vdom : String) : Json → List Sample
  | .obj members =>
    ReportedNumber.samples DomainUsage.reported [("vdom", vdom)] members ++
      (MixedRecord.others DomainUsage.fieldNames members).entries.flatMap fun (object, usage) =>
        ReportedNumber.samples ObjectUsage.reported [("vdom", vdom), ("object", object)]
          (ObjectUsage.record.entriesOf usage)
  | _ => []

/-- `samples` of a virtual domain are those that its results tell. -/
theorem samples_eq_reported (vdom : String) {v : Json} {r : Resources}
    (hread : readResources v = .ok r) : samples vdom r = reported vdom v := by
  cases v with
  | obj members =>
    have hsplit := Except.mapError_eq_ok_iff.1 hread
    have hkeys : ∀ n ∈ DomainUsage.reported, n.key ∈ DomainUsage.fieldNames := by
      simp [DomainUsage.reported, DomainUsage.fieldNames]
    have hfixed := DomainUsage.areShownBy_reported.samples_eq
      (MixedRecord.split_eq_ok_iff.1 hsplit).1 [vdom]
    rw [Record.entriesOf, ReportedNumber.samples_fixedMembers hkeys] at hfixed
    rw [samples, reported, DomainUsage.measurements_eq_map, hfixed]
    -- Each type of object is read from the value at its own key.
    refine congrArg _ (flatMap_eq_of_forall₂ (MixedRecord.rel_others hsplit) ?_).symm
    rintro ⟨object, v⟩ ⟨_, usage⟩ ⟨rfl, hread⟩
    show ReportedNumber.samples _ _ _ = Measurement.samples _ [vdom, object] usage
    rw [ObjectUsage.measurements_eq_map, ObjectUsage.areShownBy_reported.samples_eq hread]
    rfl
  | _ => cases hread

/-- `samplesOfAll` makes all samples if `readResources` can split the results of every envelope. -/
theorem samplesOfAll_eq_ok_iff {envelopes : List (Envelope Json)} {found : List Sample} :
    samplesOfAll envelopes = .ok found ↔
      (∀ e ∈ envelopes, ∃ r, readResources e.results = .ok r) ∧
      found = envelopes.flatMap fun e => reported e.vdom e.results := by
  induction envelopes generalizing found with
  | nil => simp [samplesOfAll, eq_comm]
  | cons e rest ih =>
    rw [samplesOfAll, Except.bind_eq_ok_iff, List.forall_mem_cons, List.flatMap_cons]
    simp only [Except.mapError_eq_ok_iff, Except.bind_eq_ok_iff, ih]
    constructor
    · rintro ⟨r, hread, _, ⟨hrest, rfl⟩, hfound⟩
      rw [← Except.ok.inj hfound, samples_eq_reported e.vdom hread]
      exact ⟨⟨⟨r, hread⟩, hrest⟩, rfl⟩
    · rintro ⟨⟨⟨r, hread⟩, hrest⟩, rfl⟩
      rw [← samples_eq_reported e.vdom hread]
      exact ⟨r, hread, _, ⟨hrest, rfl⟩, rfl⟩

/-- `samplesOfAll` puts the samples of all virtual domains together from those of each of them. -/
theorem samplesOfAll_eq_mapM (envelopes : List (Envelope Json)) :
    samplesOfAll envelopes =
      (envelopes.mapM fun e =>
        ((readResources e.results).mapError (.schema path)).map (samples e.vdom)).map
          List.flatten := by
  induction envelopes with
  | nil => rfl
  | cons e rest ih =>
    rw [samplesOfAll, ih, List.mapM_cons]
    cases readResources e.results with
    | error fault => rfl
    | ok r => cases rest.mapM (m := Except ProbeError) _ <;> rfl

/-- `samplesOfAll` fails for the first envelope whose results cannot be split. -/
theorem samplesOfAll_eq_error_iff {envelopes : List (Envelope Json)} {cause : ProbeError} :
    samplesOfAll envelopes = .error cause ↔
      ∃ front e back fault, envelopes = front ++ e :: back ∧
        (∀ x ∈ front, ∃ r, readResources x.results = .ok r) ∧
        readResources e.results = .error fault ∧ cause = .schema path fault := by
  rw [samplesOfAll_eq_mapM, Except.map_eq_error_iff, Except.mapM_eq_error_iff]
  simp only [Except.map_eq_ok_iff, Except.map_eq_error_iff, Except.mapError_eq_ok_iff,
    Except.mapError_eq_error_iff]
  constructor
  · rintro ⟨front, e, back, rfl, hfront, fault, hfault, rfl⟩
    refine ⟨front, e, back, fault, rfl, fun x hx => ?_, hfault, rfl⟩
    obtain ⟨_, r, hr, -⟩ := hfront x hx
    exact ⟨r, hr⟩
  · rintro ⟨front, e, back, fault, rfl, hfront, hfault, rfl⟩
    refine ⟨front, e, back, rfl, fun x hx => ?_, fault, hfault, rfl⟩
    obtain ⟨r, hr⟩ := hfront x hx
    exact ⟨_, r, hr, rfl⟩

/-- What the routine of virtual domains comes to when it is answered with `v`. -/
theorem value_collect {σ : Type} {device : Device σ} (ctx : ScrapeContext) {s : σ} {v : Json}
    (h : (device.answer s ⟨path, everyDomain⟩).1 = .ok v) :
    ((routine.collect ctx).run.run device s).value =
      (Envelope.listDecoder Decoder.any v).mapError (.decode path) >>= samplesOfAll := by
  have hread : Collection.readAnswer (Envelope.listDecoder Decoder.any) path (.ok v) =
      (Envelope.listDecoder Decoder.any v).mapError (.decode path) := rfl
  simp only [routine, ExceptT.run_bind, Dialogue.run_bind, Collection.run_fetch, h, hread]
  cases (Envelope.listDecoder Decoder.any v).mapError (ProbeError.decode path) <;> rfl

section

variable {σ : Type} {device : Device σ} (ctx : ScrapeContext) {s : σ} {v : Json}

/-- The usage is collected if the envelopes can be read and `readResources` can split the results of
each. -/
theorem value_collect_eq_ok_iff (h : (device.answer s ⟨path, everyDomain⟩).1 = .ok v)
    {found : List Sample} :
    ((routine.collect ctx).run.run device s).value = .ok found ↔ ∃ envelopes,
      Envelope.listDecoder Decoder.any v = .ok envelopes ∧
      (∀ e ∈ envelopes, ∃ r, readResources e.results = .ok r) ∧
      found = envelopes.flatMap fun e => reported e.vdom e.results := by
  rw [value_collect ctx h, Except.bind_eq_ok_iff]
  simp only [Except.mapError_eq_ok_iff, samplesOfAll_eq_ok_iff]

/-- The routine fails as the reading of the envelopes does, or for the first results that cannot be
split. -/
theorem value_collect_eq_error_iff (h : (device.answer s ⟨path, everyDomain⟩).1 = .ok v)
    {cause : ProbeError} :
    ((routine.collect ctx).run.run device s).value = .error cause ↔
      (∃ mismatch, Envelope.listDecoder Decoder.any v = .error mismatch ∧
        cause = .decode path mismatch) ∨
      ∃ front e back fault, Envelope.listDecoder Decoder.any v = .ok (front ++ e :: back) ∧
        (∀ x ∈ front, ∃ r, readResources x.results = .ok r) ∧
        readResources e.results = .error fault ∧ cause = .schema path fault := by
  rw [value_collect ctx h, Except.bind_eq_error_iff]
  simp only [Except.mapError_eq_ok_iff, Except.mapError_eq_error_iff, samplesOfAll_eq_error_iff]
  refine or_congr (by simp only [eq_comm]) ⟨?_, ?_⟩
  · rintro ⟨_, hread, front, e, back, fault, rfl, hfront, hfault, rfl⟩
    exact ⟨front, e, back, fault, hread, hfront, hfault, rfl⟩
  · rintro ⟨front, e, back, fault, hread, hfront, hfault, rfl⟩
    exact ⟨_, hread, front, e, back, fault, rfl, hfront, hfault, rfl⟩

end

end VirtualDomain

/-! ## Licenses -/

namespace Entitlement

theorem names_nodup : record.names.Nodup := by decide

/-- The status of an entitlement is the text at its key. -/
theorem status_isShownBy : record.IsShownBy "status" Json.textOr (·.status) :=
  Record.isShownBy_text names_nodup rfl (fun _ _ => rfl) (by simp [record])

/-- The expiry of an entitlement is the number at its key, which may be null. -/
theorem expires_isShownBy : record.IsShownBy "expires" (Decoder.nullable Decoder.double)
    fun e => .ok e.expires :=
  Record.isShownBy_read names_nodup rfl (fun _ _ => rfl) (by simp [record])

end Entitlement

namespace License

/-- The state that is reported for an entitlement. -/
def reportedState (status : String) : String :=
  if status ∈ ["licensed", "expired", "no_license", "pending"] then status else "unknown"

/-- What is reported about an entitlement, read off its value: its state, and the time at which it
expires unless that is absent or null. -/
def reported (name : String) (v : Json) : List Sample :=
  let labels := [("entitlement", name)]
  let states := ["licensed", "expired", "no_license", "pending", "unknown"]
  let entries := Entitlement.record.entriesOf v
  entitlementStatus.labelledStates labels states
      (reportedState (Json.textAt "status" entries)) ++
    match valueAt? "expires" entries with
    | none | some .null => []
    | some time => [entitlementExpiry.labelled time.numberOr labels]

/-- `entitlementSamples` are those that the value of an entitlement tells. -/
theorem entitlementSamples_eq_reported (name : String) {v : Json} {e : Entitlement}
    (hread : Decoder.record Entitlement.record v = .ok e) :
    entitlementSamples name e = reported name v := by
  have hsound : StateFamily.IsSound ⟨entitlementStatus, entitlementStates⟩ := by decide +kernel
  have hlength : [name].length + 1 = entitlementStatus.labels.length := rfl
  have hstatus := Entitlement.status_isShownBy.textOf Entitlement.names_nodup rfl hread
  rw [entitlementSamples, reported, ← hstatus]
  refine congrArg₂ _ (hsound.samplePerState_eq_labelledStates hlength e.status) ?_
  rcases Entitlement.expires_isShownBy.cases_valueAt? Entitlement.names_nodup hread with
    ⟨w, hvalue, hw⟩ | ⟨hvalue, hblank⟩
  · rw [hvalue]
    generalize e.expires = expires at hw
    cases w <;> cases hw <;> rfl
  · rw [hvalue, hblank]
    rfl

/-- The samples of the sections that are named. -/
def sectionSamples (sections : LicenseSections) : List Sample :=
  optionalSample domainsUsed [] sections.domains.used ++
    optionalSample domainsAvailable [] sections.domains.available ++
    registrationStatus.samplePerState [] sections.registration.status registrationStates

/-- `sectionSamples` has no sample of an entitlement. -/
theorem name_ne_of_mem_sectionSamples {sections : LicenseSections} {x : Sample}
    (hx : x ∈ sectionSamples sections) :
    x.name ≠ entitlementStatus.name ∧ x.name ≠ entitlementExpiry.name := by
  have hoptional : ∀ {family : Family} {value : Option Float},
      x ∈ optionalSample family [] value → x.name = family.name := by
    intro family value h
    obtain ⟨_, -, rfl⟩ := Option.map_eq_some_iff.1 (Option.mem_toList.1 h)
    rfl
  -- The sections have three families.
  have hname : x.name ∈ [domainsUsed.name, domainsAvailable.name, registrationStatus.name] := by
    rw [sectionSamples, List.mem_append, List.mem_append] at hx
    rcases hx with (hx | hx) | hx
    · simp [hoptional hx]
    · simp [hoptional hx]
    · obtain ⟨_, -, rfl⟩ := List.mem_map.1 hx
      simp [Family.sample]
  have hdistinct : ∀ name ∈ [domainsUsed.name, domainsAvailable.name, registrationStatus.name],
      name ≠ entitlementStatus.name ∧ name ≠ entitlementExpiry.name := by decide
  exact hdistinct _ hname

/-- `samples` of licenses are those of the sections and, after them, of all other members. -/
theorem samples_eq_append {members : List (String × Json)}
    {license : MixedRecord LicenseSections Entitlement}
    (hsplit : MixedRecord.split sectionNames (Decoder.record LicenseSections.record)
      (Decoder.record Entitlement.record) members = .ok license) :
    samples license = sectionSamples license.fixed ++
      (MixedRecord.others sectionNames members).entries.flatMap fun (name, v) =>
        reported name v := by
  refine congrArg _ (flatMap_eq_of_forall₂ (MixedRecord.rel_others hsplit) ?_).symm
  rintro ⟨name, v⟩ ⟨_, e⟩ ⟨rfl, hread⟩
  exact (entitlementSamples_eq_reported name hread).symm

/-- Licenses are read by splitting the results of an envelope. -/
theorem exists_split_of_decoder {v : Json} {e : Envelope (MixedRecord LicenseSections Entitlement)}
    (hread : Envelope.decoder (MixedRecord.decoder sectionNames
      (Decoder.record LicenseSections.record) (Decoder.record Entitlement.record)) v = .ok e) :
    ∃ answered, Envelope.decoder Decoder.object v = .ok answered ∧
      MixedRecord.split sectionNames (Decoder.record LicenseSections.record)
        (Decoder.record Entitlement.record) answered.results = .ok e.results := by
  -- Where licenses are read, an object is read as well, and it is the one that was split.
  have hresults : ∀ w, Refines (fun license members => MixedRecord.split sectionNames
      (Decoder.record LicenseSections.record) (Decoder.record Entitlement.record) members =
        .ok license)
      (MixedRecord.decoder sectionNames (Decoder.record LicenseSections.record)
        (Decoder.record Entitlement.record) w) (Decoder.object w) := by
    intro w license hlicense
    obtain ⟨members, hmembers, hsplit⟩ := Except.bind_eq_ok_iff.1 hlicense
    exact ⟨members, hmembers, Except.mapError_eq_ok_iff.1 hsplit⟩
  have hdefault : MixedRecord.split sectionNames (Decoder.record LicenseSections.record)
      (Decoder.record Entitlement.record) default = .ok default := rfl
  obtain ⟨answered, hanswered, -, hsplit⟩ :=
    (refines_envelope hdefault hresults).decoder v e hread
  exact ⟨answered, hanswered, hsplit⟩

/-- What the routine of licenses comes to when it is answered with `v`. -/
theorem value_collect {σ : Type} {device : Device σ} (ctx : ScrapeContext) {s : σ} {v : Json}
    (h : (device.answer s ⟨"monitor/license/status", ""⟩).1 = .ok v) :
    ((routine.collect ctx).run.run device s).value =
      ((Envelope.decoder (MixedRecord.decoder sectionNames (Decoder.record LicenseSections.record)
        (Decoder.record Entitlement.record)) v).mapError
          (.decode "monitor/license/status")).map fun e => samples e.results := by
  rw [routine, Routine.value_collect_ofEndpoint, h]
  rfl

section

variable {σ : Type} {device : Device σ} (ctx : ScrapeContext) {s : σ} {v : Json}

/-- Licenses that are collected have one block for each entitlement, after what is reported about
the sections. -/
theorem exists_blocks_of_value_collect
    (hanswer : (device.answer s ⟨"monitor/license/status", ""⟩).1 = .ok v) {found : List Sample}
    (h : ((routine.collect ctx).run.run device s).value = .ok found) : ∃ answered sections,
      Envelope.decoder Decoder.object v = .ok answered ∧
      found = sectionSamples sections ++
        (MixedRecord.others sectionNames answered.results).entries.flatMap fun (name, v) =>
          reported name v := by
  rw [value_collect ctx hanswer, Except.map_eq_ok_iff] at h
  obtain ⟨e, hread, rfl⟩ := h
  obtain ⟨answered, hanswered, hsplit⟩ :=
    exists_split_of_decoder (Except.mapError_eq_ok_iff.1 hread)
  exact ⟨answered, e.results.fixed, hanswered, samples_eq_append hsplit⟩

/-- No licenses are collected if one `entitlement` cannot be read. -/
theorem value_collect_of_malformed
    (hanswer : (device.answer s ⟨"monitor/license/status", ""⟩).1 = .ok v)
    {answered : Envelope (List (String × Json))}
    (hanswered : Envelope.decoder Decoder.object v = .ok answered) {name : String}
    {entitlement : Json} {mismatch : Mismatch} (hmem : (name, entitlement) ∈ answered.results)
    (hname : name ∉ sectionNames)
    (hmismatch : Decoder.record Entitlement.record entitlement = .error mismatch) :
    ∃ cause, ((routine.collect ctx).run.run device s).value =
      .error (.decode "monitor/license/status" cause) := by
  rw [value_collect ctx hanswer]
  cases hread : Envelope.decoder (MixedRecord.decoder sectionNames
      (Decoder.record LicenseSections.record) (Decoder.record Entitlement.record)) v with
  | error cause => exact ⟨cause, rfl⟩
  | ok e =>
    -- The entitlement would have been read.
    obtain ⟨answered', hanswered', hsplit⟩ := exists_split_of_decoder hread
    obtain rfl : answered = answered' := Except.ok.inj (hanswered.symm.trans hanswered')
    obtain ⟨b, hb⟩ := MixedRecord.exists_read_of_split hsplit hmem hname
    rw [hmismatch] at hb
    cases hb

end

end License

/-! ## Both routines -/

/-- The dynamic keys of an object are those that are not among `names`, by their bytes. -/
theorem MixedRecord.keys_others_complete (names : List String) (members : List (String × Json)) :
    ((others names members).entries.map (·.1)).Pairwise (fun a b => bytesOf a < bytesOf b) ∧
      ∀ key, key ∈ (others names members).entries.map (·.1) ↔
        key ∉ names ∧ key ∈ members.map (·.1) :=
  ⟨Dict.pairwise_bytesOf_keys _, fun _ => mem_keys_others⟩

/-- The `usage` of virtual domains is reported if all envelopes and the results of each can be read;
otherwise the routine fails with the first results that cannot be split. -/
theorem VirtualDomain.usage_complete {σ : Type} (device : Device σ) (ctx : ScrapeContext) (s : σ)
    {v : Json}
    (hanswer : (device.answer s ⟨"monitor/system/vdom-resource", everyDomain⟩).1 = .ok v) :
    let usage := ((routine.collect ctx).run.run device s).value
    (∀ found, usage = .ok found ↔ ∃ envelopes,
      Envelope.listDecoder Decoder.any v = .ok envelopes ∧
      (∀ e ∈ envelopes, ∃ r, readResources e.results = .ok r) ∧
      found = envelopes.flatMap fun e => reported e.vdom e.results) ∧
    ∀ cause, usage = .error cause ↔
      (∃ mismatch, Envelope.listDecoder Decoder.any v = .error mismatch ∧
        cause = .decode "monitor/system/vdom-resource" mismatch) ∨
      ∃ front e back fault, Envelope.listDecoder Decoder.any v = .ok (front ++ e :: back) ∧
        (∀ x ∈ front, ∃ r, readResources x.results = .ok r) ∧
        readResources e.results = .error fault ∧
        cause = .schema "monitor/system/vdom-resource" fault :=
  ⟨fun _ => value_collect_eq_ok_iff ctx hanswer, fun _ => value_collect_eq_error_iff ctx hanswer⟩

/-- The `licenses` are reported with one block for each entitlement, and not at all if one
entitlement cannot be read. -/
theorem License.entitlements_complete {σ : Type} (device : Device σ) (ctx : ScrapeContext) (s : σ)
    {v : Json}
    (hanswer : (device.answer s ⟨"monitor/license/status", ""⟩).1 = .ok v) :
    let licenses := ((routine.collect ctx).run.run device s).value
    (∀ found, licenses = .ok found → ∃ answered front,
      Envelope.decoder Decoder.object v = .ok answered ∧
      (∀ x ∈ front, x.name ≠ "fortigate_license_status" ∧
        x.name ≠ "fortigate_license_expiry_timestamp_seconds") ∧
      found = front ++ (MixedRecord.others ["vdom", "forticare"] answered.results).entries.flatMap
        fun (name, entitlement) => reported name entitlement) ∧
    ∀ answered name entitlement mismatch, Envelope.decoder Decoder.object v = .ok answered →
      (name, entitlement) ∈ answered.results → name ∉ ["vdom", "forticare"] →
      Decoder.record Entitlement.record entitlement = .error mismatch →
      ∃ cause, licenses = .error (.decode "monitor/license/status" cause) := by
  refine ⟨fun found h => ?_, fun answered name entitlement mismatch hanswered hmem hname =>
    value_collect_of_malformed ctx hanswer hanswered hmem hname⟩
  obtain ⟨answered, sections, hanswered, hfound⟩ := exists_blocks_of_value_collect ctx hanswer h
  exact ⟨answered, _, hanswered, fun x hx => name_ne_of_mem_sectionSamples hx, hfound⟩

/-- Of an object that mixes fixed and dynamic keys no key is lost.  The `usage` of virtual domains
is reported if all envelopes and the results of each can be read, otherwise the first results that
cannot be split are the error.  The `licenses` are reported with one block for each entitlement, and
not at all if one entitlement cannot be read. -/
theorem mixed_results_complete {σ : Type} (device : Device σ) (ctx : ScrapeContext) (s : σ) :
    let usage := ((VirtualDomain.routine.collect ctx).run.run device s).value
    let licenses := ((License.routine.collect ctx).run.run device s).value
    (∀ names members,
      ((MixedRecord.others names members).entries.map (·.1)).Pairwise
        (fun a b => bytesOf a < bytesOf b) ∧
      ∀ key, key ∈ (MixedRecord.others names members).entries.map (·.1) ↔
        key ∉ names ∧ key ∈ members.map (·.1)) ∧
    (∀ v, (device.answer s ⟨"monitor/system/vdom-resource", everyDomain⟩).1 = .ok v →
      (∀ found, usage = .ok found ↔ ∃ envelopes,
        Envelope.listDecoder Decoder.any v = .ok envelopes ∧
        (∀ e ∈ envelopes, ∃ r, VirtualDomain.readResources e.results = .ok r) ∧
        found = envelopes.flatMap fun e => VirtualDomain.reported e.vdom e.results) ∧
      ∀ cause, usage = .error cause ↔
        (∃ mismatch, Envelope.listDecoder Decoder.any v = .error mismatch ∧
          cause = .decode "monitor/system/vdom-resource" mismatch) ∨
        ∃ front e back fault, Envelope.listDecoder Decoder.any v = .ok (front ++ e :: back) ∧
          (∀ x ∈ front, ∃ r, VirtualDomain.readResources x.results = .ok r) ∧
          VirtualDomain.readResources e.results = .error fault ∧
          cause = .schema "monitor/system/vdom-resource" fault) ∧
    ∀ w, (device.answer s ⟨"monitor/license/status", ""⟩).1 = .ok w →
      (∀ found, licenses = .ok found → ∃ answered front,
        Envelope.decoder Decoder.object w = .ok answered ∧
        (∀ x ∈ front, x.name ≠ "fortigate_license_status" ∧
          x.name ≠ "fortigate_license_expiry_timestamp_seconds") ∧
        found = front ++ (MixedRecord.others ["vdom", "forticare"] answered.results).entries.flatMap
          fun (name, entitlement) => License.reported name entitlement) ∧
      ∀ answered name entitlement mismatch, Envelope.decoder Decoder.object w = .ok answered →
        (name, entitlement) ∈ answered.results → name ∉ ["vdom", "forticare"] →
        Decoder.record Entitlement.record entitlement = .error mismatch →
        ∃ cause, licenses = .error (.decode "monitor/license/status" cause) :=
  ⟨MixedRecord.keys_others_complete,
    fun _ hanswer => VirtualDomain.usage_complete device ctx s hanswer,
    fun _ hanswer => License.entitlements_complete device ctx s hanswer⟩

/-- A domain with two types of objects, and two entitlements of which one does not expire.  With a
third that is no object, no license is reported. -/
theorem mixed_results_complete_expires :
    let entitlement (status : String) (expires : Json) : Json :=
      .obj [("status", .str status), ("expires", expires)]
    let device (more : List (String × Json)) : Device Unit := Device.ofFunction fun
      | ⟨"monitor/license/status", _⟩ => .ok (.obj [("results", .obj (more ++ [
          ("antivirus", entitlement "licensed" (.int 7)), ("vdom", .obj []),
          ("webfilter", entitlement "lapsed" .null)]))])
      | _ => .ok (.arr [.obj [("vdom", .str "root"), ("results", .obj [("session", .obj []),
          ("cpu", .int 100), ("address", .obj [("current_usage", .int 2)])])]])
    let ctx : ScrapeContext := ⟨some ⟨7, 0⟩, none, {}⟩
    let usage := ((VirtualDomain.routine.collect ctx).run.run (device []) ()).value
    let licenses := fun more => ((License.routine.collect ctx).run.run (device more) ()).value
    (∃ found, ∃ envelopes : List (Envelope Json), usage = .ok found ∧
      found.map (fun x => (x.label? "object", x.value)) = [
        (none, 1.0), (none, 0.0), (none, 0.0),
        (some "address", 2.0), (some "address", 0.0), (some "address", 0.0), (some "address", 0.0),
        (some "session", 0.0), (some "session", 0.0), (some "session", 0.0),
        (some "session", 0.0)] ∧
      found = envelopes.flatMap fun e => VirtualDomain.reported e.vdom e.results) ∧
    (∃ found front members, licenses [] = .ok found ∧
      (found.filter (fun x => x.value ≠ 0.0)).map (fun x => x.labels.map (·.2)) = [["unknown"],
        ["antivirus", "licensed"], ["antivirus"], ["webfilter", "unknown"]] ∧
      found = front ++ (MixedRecord.others ["vdom", "forticare"] members).entries.flatMap
        fun (name, v) => License.reported name v) ∧
    ∃ cause, licenses [("sandbox", .int 1)] = .error (.decode "monitor/license/status" cause) := by
  intro entitlement device ctx usage licenses
  obtain ⟨-, hdomains, hsections⟩ := mixed_results_complete (device []) ctx ()
  obtain ⟨husage, -⟩ := hdomains _ rfl
  obtain ⟨hlicenses, -⟩ := hsections _ rfl
  refine ⟨?_, ?_, ?_⟩
  · have hshown : usage.toOption.map (List.map fun x => (x.label? "object", x.value)) = some [
        (none, 1.0), (none, 0.0), (none, 0.0),
        (some "address", 2.0), (some "address", 0.0), (some "address", 0.0), (some "address", 0.0),
        (some "session", 0.0), (some "session", 0.0), (some "session", 0.0),
        (some "session", 0.0)] := by decide +kernel
    obtain ⟨found, hfound, hvalues⟩ := Except.map_toOption_eq_some_iff.1 hshown
    obtain ⟨envelopes, -, -, heq⟩ := (husage found).1 hfound
    exact ⟨found, envelopes, hfound, hvalues, heq⟩
  · have hshown : (licenses []).toOption.map (fun found =>
        (found.filter (fun x => x.value ≠ 0.0)).map fun x => x.labels.map (·.2)) =
        some [["unknown"], ["antivirus", "licensed"], ["antivirus"], ["webfilter", "unknown"]] := by
      decide +kernel
    obtain ⟨found, hfound, hlabels⟩ := Except.map_toOption_eq_some_iff.1 hshown
    obtain ⟨answered, front, -, -, heq⟩ := hlicenses found hfound
    exact ⟨found, front, answered.results, hfound, hlabels, heq⟩
  · obtain ⟨-, -, hsections⟩ := mixed_results_complete (device [("sandbox", .int 1)]) ctx ()
    obtain ⟨-, hmalformed⟩ := hsections _ rfl
    exact hmalformed { results := _ } "sandbox" (.int 1) _ rfl List.mem_cons_self (by decide) rfl

end FirewallProbe
