import FirewallProbe.Proofs.Collected
import FirewallProbe.Proofs.Emission.Consistency
import FirewallProbe.Proofs.Firmware.Order
import FirewallProbe.Proofs.Schema.Shape

/-!
# One answer decides what the firmware supports

A scrape asks for the status first and never again.  The version in that one answer decides which
routines are skipped and which endpoints the policies are asked from, and it is the version that is
reported, also if the device would answer differently a moment later.

## Key results

- `SystemStatus.exists_decoder_iff` / `Scrape.version_of_statusOf`: what is read of the status
- `label_eq_skipped_iff_lt`: which routines are skipped
- `status_not_mem_calls`: no routine asks for the status
- `calls_policies`: policies are asked from the endpoints of the firmware
- `filter_versionInfo`: the version that is reported
- `status_settles_version`: all of it comes from one answer
-/

namespace FirewallProbe

/-- No line of `requestTable` asks for the status of the device. -/
theorem status_not_mem_requestTable (policy : EndpointPolicy) (maxBgpPaths : Nat) :
    ∀ line ∈ requestTable policy maxBgpPaths,
      (⟨"monitor/system/status", ""⟩ : Endpoint) ∉ line.2.map (·.endpoint) := by
  rcases policy with ⟨_ | _⟩ <;>
    simp [requestTable, PolicyTraffic.requests, PolicyTraffic.configRequest,
      PolicyTraffic.statisticsRequest, Request.device, Request.domains, Request.of]

/-! ## What is read of a status -/

namespace SystemStatus

/-- The fields of a status, all of them texts that may be absent. -/
def shapes : List (FieldShape Json) :=
  ["model_name", "model_number", "model", "hostname"].map fun name => ⟨name, false, Json.IsText⟩

/-- A value that is the status of a device: an envelope whose results are a status. -/
def IsStatus (v : Json) : Prop := v.HasFields (Envelope.shapes (Json.HasFields shapes))

/-- The version that a status tells: a text at the key `version` of an object, or in the third place
of a list. -/
def versionTold : Json → Option String
  | .arr items => items[2]?.bind Json.text?
  | v => (v.member? "version").bind Json.text?

/-- `SystemStatus.decoder` reads the values that are a status, and no others. -/
theorem exists_decoder_iff (v : Json) : (∃ e, decoder v = .ok e) ↔ IsStatus v := by
  have hfits : List.Forall₂ Field.Fits record.fields shapes :=
    .cons (Field.fits_optional Decoder.exists_text_iff) <|
    .cons (Field.fits_optional Decoder.exists_text_iff) <|
    .cons (Field.fits_optional Decoder.exists_text_iff) <|
    .cons (Field.fits_optional Decoder.exists_text_iff) .nil
  exact Envelope.exists_decoder_iff (Record.exists_decoder_iff hfits (by decide)) v

/-- The version of a status is the text at its key; null counts as no text. -/
theorem version_isShownBy :
    (Envelope.record (Decoder.record record)).IsShownBy "version" Json.text? (·.version) := by
  refine Record.isShownBy_of_optional (by decide) rfl (fun v x e hx => ?_)
    (by simp [Envelope.record])
  exact (Decoder.text?_of_nullable hx).symm

/-- The version of a status that was read is the one that its value tells. -/
theorem version_eq_versionTold {v : Json} {e : Envelope SystemStatus} (hread : decoder v = .ok e) :
    e.version = versionTold v := by
  let r := Envelope.record (Decoder.record record)
  have hshown : e.version = (valueAt? "version" (r.entriesOf v)).bind Json.text? := by
    rw [version_isShownBy.decoder (by decide) hread]
    cases valueAt? "version" (r.entriesOf v) <;> rfl
  rw [hshown]
  cases v with
  | obj members => rfl
  | arr items =>
    -- The version comes third among the fields of an envelope.
    have hnames : r.names = ["results", "vdom", "version", "serial", "build"] := rfl
    rw [Record.entriesOf, hnames, versionTold]
    rcases items with _ | ⟨_, _ | ⟨_, _ | ⟨_, _⟩⟩⟩ <;> simp [valueAt?]
  | _ => cases hread

end SystemStatus

/-- The version label holds the version of the `status`, and an empty text if there is none. -/
theorem DeviceInfo.map_label_samples (status : Envelope SystemStatus) :
    (samples status).map (·.label? "version") = [some (status.version.getD "")] := by
  simp [samples, versionInfo, Family.gauge, Family.sample, Sample.label?]

namespace Scrape

variable {σ : Type} {device : Device σ} {options : ProbeOptions} {s : σ}

/-! ## Skipped routines -/

/-- A turn is skipped if its routine requires firmware that is newer than what is known. -/
theorem label_turn_eq_skipped_iff (ctx : ScrapeContext) (r : Routine) (s : σ) :
    (turn device ctx r s).label = "skipped" ↔ ∃ least ∈ r.since, ∀ v ∈ ctx.firmware, v < least := by
  have hskipped : (turn device ctx r s).label = "skipped" ↔ r.isSupported ctx.firmware = false := by
    rw [Turn.label_eq_skipped_iff, turn]
    split <;> simp_all
  rw [hskipped]
  cases hsince : r.since with
  | none => simp [Routine.isSupported, hsince]
  | some least => simp [Routine.isSupported, hsince, Firmware.meets_eq_false_iff]

/-- Every turn of a scrape goes by the `firmware` of the report. -/
theorem label_eq_skipped_iff_lt {t : Turn σ} (ht : t ∈ turnsOf device routineTable options s) :
    t.label = "skipped" ↔ ∃ least ∈ t.routine.since,
      ∀ v ∈ ((scrape options).run device s).value.firmware, v < least := by
  obtain ⟨before, after, hsplit⟩ := List.append_of_mem ht
  obtain ⟨-, hturn⟩ := turn_of_turnsOf_append device hsplit
  rw [firmware_scrape, hturn]
  exact label_turn_eq_skipped_iff _ _ _

/-! ## Calls -/

/-- No turn asks for the status. -/
theorem status_not_mem_calls {t : Turn σ} (ht : t ∈ turnsOf device routineTable options s) :
    (⟨"monitor/system/status", ""⟩ : Endpoint) ∉ t.calls := by
  obtain ⟨requests, -, hline, hstart⟩ := exists_calls_prefix device ht
  exact fun hmem => status_not_mem_requestTable _ _ _ hline (hstart.subset hmem)

/-- Policies are asked from the endpoints that the `firmware` has. -/
theorem calls_policies {t : Turn σ} (ht : t ∈ turnsOf device routineTable options s)
    (hname : t.routine.name = "firewall_policies") :
    t.calls <+:
      if Firmware.meets ((scrape options).run device s).value.firmware ⟨6, 4⟩ then
        PolicyTraffic.combinedEndpoints
      else PolicyTraffic.splitEndpoints := by
  obtain ⟨requests, hlookup, -, hstart⟩ := exists_calls_prefix device ht
  rw [hname] at hlookup
  obtain rfl : PolicyTraffic.requests _ = requests := Option.some.inj hlookup
  rw [PolicyTraffic.map_endpoint_requests] at hstart
  exact hstart

/-! ## The info metric -/

section info

variable (device options s)

/-- The status that the first answer of a scrape holds, if it can be read. -/
def statusOf (answer : Answer) : Option (Envelope SystemStatus) :=
  (Collection.readAnswer SystemStatus.decoder SystemStatus.path answer).toOption

/-- `statusOf` is what `SystemStatus.decoder` reads, if the device answered. -/
theorem statusOf_eq_some_iff {answer : Answer} {e : Envelope SystemStatus} :
    statusOf answer = some e ↔ ∃ v, answer = .ok v ∧ SystemStatus.decoder v = .ok e := by
  rw [statusOf, Except.toOption_eq_some_iff, Collection.readAnswer_eq_ok_iff]

/-- `statusOf` is there if and only if the device answers, and with the status of a device. -/
theorem exists_statusOf_iff (answer : Answer) :
    (∃ e, statusOf answer = some e) ↔ ∃ v, answer = .ok v ∧ SystemStatus.IsStatus v := by
  simp only [statusOf_eq_some_iff, ← SystemStatus.exists_decoder_iff]
  exact ⟨fun ⟨e, v, hv, he⟩ => ⟨v, hv, e, he⟩, fun ⟨v, hv, e, he⟩ => ⟨e, v, hv, he⟩⟩

/-- `statusOf` has the version that stands in the answer. -/
theorem version_of_statusOf {answer : Answer} {e : Envelope SystemStatus}
    (h : statusOf answer = some e) :
    ∃ v, answer = .ok v ∧ e.version = SystemStatus.versionTold v := by
  obtain ⟨v, hv, hread⟩ := statusOf_eq_some_iff.1 h
  exact ⟨v, hv, SystemStatus.version_eq_versionTold hread⟩

/-- The first routine of the table reports the status of its context. -/
theorem block_deviceInfo (ctx : ScrapeContext) :
    (turn device ctx DeviceInfo.routine s).block =
      ctx.status.toList.flatMap DeviceInfo.samples := by
  cases hstatus : ctx.status with
  | none =>
    simp only [Turn.block, Turn.outcome, turn, DeviceInfo.routine, hstatus]
    rfl
  | some status =>
    simp only [Turn.block, Turn.outcome, turn, DeviceInfo.routine, hstatus]
    rfl

/-- Only the first routine of the table reports the identity of the device. -/
theorem routine_eq_of_mem_block {t : Turn σ} (ht : t ∈ turnsOf device routineTable options s)
    {x : Sample} (hx : x ∈ t.block) (hname : x.name = "fortigate_version_info") :
    t.routine = DeviceInfo.routine := by
  obtain ⟨c, hc, hemits⟩ := exists_ownCatalog ht
  obtain ⟨f, hf, hxf⟩ := hemits.exists_family hx
  have hinfo : (DeviceInfo.routine, DeviceInfo.catalog) ∈ routineTable.zip catalogs :=
    List.mem_cons_self
  have hmem : DeviceInfo.versionInfo ∈ DeviceInfo.catalog.families := List.mem_cons_self
  exact routine_eq_of_family_name_eq hc hinfo hf hmem (by rw [← hxf.name, hname]; rfl)

/-- What the turn `t` reports of the identity of the device. -/
theorem filter_block_eq {t : Turn σ} (ht : t ∈ turnsOf device routineTable options s) :
    t.block.filter (fun x => x.name = "fortigate_version_info") =
      if t.routine.name = "system_status" then
        (statusOf (device.answer s ⟨"monitor/system/status", ""⟩).1).toList.flatMap
          DeviceInfo.samples
      else [] := by
  obtain ⟨before, after, hsplit⟩ := List.append_of_mem ht
  obtain ⟨hmem, hturn⟩ := turn_of_turnsOf_append device hsplit
  split
  -- The turn of the first routine has nothing else, and the other turns have nothing of it.
  next hname =>
    have hroutine : t.routine = DeviceInfo.routine :=
      List.inj_on_of_nodup_map nodup_names_routineTable hmem List.mem_cons_self hname
    have hinfo : ∀ status, ∀ x ∈ DeviceInfo.samples status, x.name = "fortigate_version_info" := by
      simp [DeviceInfo.samples, DeviceInfo.versionInfo, Family.gauge]
    rw [hturn, hroutine, block_deviceInfo, value_resolve]
    refine List.filter_eq_self.2 fun x hx => decide_eq_true ?_
    obtain ⟨status, -, hx⟩ := List.mem_flatMap.1 hx
    exact hinfo status x hx
  next hname =>
    refine List.filter_eq_nil_iff.2 fun x hx hinfo => hname ?_
    rw [routine_eq_of_mem_block device options s ht hx (of_decide_eq_true hinfo)]
    rfl

/-- The identity of the device is reported as the first answer told it, and only there. -/
theorem filter_versionInfo :
    ((scrape options).run device s).value.samples.filter
        (fun x => x.name = "fortigate_version_info") =
      if options.routines.allows "system_status" then
        (statusOf (device.answer s ⟨"monitor/system/status", ""⟩).1).toList.flatMap
          DeviceInfo.samples
      else [] := by
  have htable : routineTable = DeviceInfo.routine :: routineTable.tail := rfl
  have hothers : ∀ r ∈ routineTable.tail, r.name ≠ "system_status" := by decide
  rw [samples_scrape, List.filter_flatMap,
    List.flatMap_congr fun t ht => filter_block_eq device options s ht]
  -- All turns but the first add nothing, and the filter decides about the first.
  generalize (statusOf _).toList.flatMap DeviceInfo.samples = own
  let ownOf (r : Routine) : List Sample := if r.name = "system_status" then own else []
  have hrest : ((routineTable.tail.filter fun r => options.routines.allows r.name).flatMap
      ownOf) = [] :=
    List.flatMap_eq_nil_iff.2 fun r hr => if_neg (hothers r (List.mem_of_mem_filter hr))
  calc (turnsOf device routineTable options s).flatMap (fun t => ownOf t.routine)
      = (chosen options routineTable).flatMap ownOf := by
        rw [← map_routine_turnsOf device options s, List.flatMap_map]
    _ = if options.routines.allows "system_status" then own else [] := by
        rw [chosen, htable, List.filter_cons]
        have hname : DeviceInfo.routine.name = "system_status" := rfl
        rw [hname]
        split
        · rw [List.flatMap_cons, hrest, List.append_nil]
          rfl
        · exact hrest

end info

/-! ## One answer -/

/-- A routine that runs with some firmware runs with every newer one. -/
theorem not_skipped_of_le {τ : Type} {other : Device τ} {others : ProbeOptions} {s' : τ}
    {t : Turn σ} {u : Turn τ} (ht : t ∈ turnsOf device routineTable options s)
    (hu : u ∈ turnsOf other routineTable others s') (hroutine : t.routine = u.routine)
    (hle : ∀ v ∈ ((scrape options).run device s).value.firmware,
      ∃ w ∈ ((scrape others).run other s').value.firmware, v ≤ w)
    (h : t.label ≠ "skipped") : u.label ≠ "skipped" := by
  intro hskipped
  obtain ⟨least, hsince, hbelow⟩ := (label_eq_skipped_iff_lt hu).1 hskipped
  refine h ((label_eq_skipped_iff_lt ht).2 ⟨least, hroutine ▸ hsince, fun v hv => ?_⟩)
  obtain ⟨w, hw, hvw⟩ := hle v hv
  exact hvw.trans_lt (hbelow w hw)

/-- A scrape asks for the status first and once.  `snapshot` is what is read of the answer: it is
there if the device answered with the status of a device, and has the text that the answer has as
its version, if any.  This version is the `firmware` of the scrape, whatever the device answers
later: routines are skipped exactly where they require newer firmware, policies are asked from the
endpoints of this firmware only, and the version that is reported is the one of the answer.  A
routine that runs with some firmware runs with every newer one. -/
theorem status_settles_version (device : Device σ) (options : ProbeOptions) (s : σ) :
    let run := (scrape options).run device s
    let ts := turnsOf device routineTable options s
    let status : Endpoint := ⟨"monitor/system/status", ""⟩
    let answer := (device.answer s status).1
    let snapshot := statusOf answer
    let firmware := (snapshot.bind (·.version)).bind Firmware.parse?
    run.calls = status :: ts.flatMap (·.calls) ∧
    status ∉ ts.flatMap (·.calls) ∧
    ((∃ e, snapshot = some e) ↔ ∃ v, answer = .ok v ∧ SystemStatus.IsStatus v) ∧
    (∀ e, snapshot = some e → ∃ v, answer = .ok v ∧ e.version = SystemStatus.versionTold v) ∧
    run.value.firmware = firmware ∧
    ts.map (·.routine) = routineTable.filter (fun r => options.routines.allows r.name) ∧
    run.value.routines = ts.map (·.entry) ∧
    run.value.samples = ts.flatMap (·.block) ∧
    (∀ t ∈ ts,
      (t.label = "skipped" ↔ ∃ least ∈ t.routine.since, ∀ v ∈ firmware, v < least) ∧
      (t.label = "skipped" → t.calls = [] ∧ t.block = []) ∧
      (t.routine.name = "firewall_policies" →
        ((∃ v ∈ firmware, ⟨6, 4⟩ ≤ v) → t.calls <+: PolicyTraffic.combinedEndpoints) ∧
        ((∀ v ∈ firmware, v < ⟨6, 4⟩) → t.calls <+: PolicyTraffic.splitEndpoints))) ∧
    (run.value.samples.filter fun x => x.name = "fortigate_version_info").map
        (·.label? "version") =
      (if options.routines.allows "system_status" then
        snapshot.toList.map fun e => some (e.version.getD "")
      else []) ∧
    ∀ {τ : Type} (other : Device τ) (others : ProbeOptions) (s' : τ),
      (∀ v ∈ firmware, ∃ w ∈ ((scrape others).run other s').value.firmware, v ≤ w) →
      ∀ t ∈ ts, ∀ u ∈ turnsOf other routineTable others s', t.routine = u.routine →
        t.label ≠ "skipped" → u.label ≠ "skipped" := by
  intro run ts status answer snapshot firmware
  have hfirmware : run.value.firmware = firmware := by
    rw [firmware_scrape, value_resolve]
    rfl
  -- Each part speaks of the firmware of the report, which is that of the first answer.
  refine ⟨calls_scrape_eq device options s, fun hmem => ?_, exists_statusOf_iff answer,
    fun e => version_of_statusOf, hfirmware, map_routine_turnsOf device options s,
    routines_scrape device options s, samples_scrape device options s,
    fun t ht => ⟨?_, fun hskipped => ⟨Turn.calls_eq_nil_of_skipped hskipped, ?_⟩,
      fun hname => ⟨fun hnew => ?_, fun hold => ?_⟩⟩, ?_, ?_⟩
  · obtain ⟨t, ht, hmem⟩ := List.mem_flatMap.1 hmem
    exact status_not_mem_calls ht hmem
  · exact hfirmware ▸ label_eq_skipped_iff_lt ht
  · simp [Turn.block, Turn.outcome, (t.label_eq_skipped_iff).1 hskipped, RoutineOutcome.samples]
  · have hmeets : Firmware.meets run.value.firmware ⟨6, 4⟩ = true :=
      hfirmware ▸ (Firmware.meets_iff _ _).2 hnew
    have hstart := calls_policies ht hname
    rwa [if_pos hmeets] at hstart
  · have hmeets : Firmware.meets run.value.firmware ⟨6, 4⟩ = false :=
      hfirmware ▸ (Firmware.meets_eq_false_iff _ _).2 hold
    have hstart := calls_policies ht hname
    rwa [hmeets] at hstart
  · rw [filter_versionInfo]
    split
    · rw [List.map_flatMap, List.map_eq_flatMap]
      exact List.flatMap_congr fun e _ => DeviceInfo.map_label_samples e
    · rfl
  · intro τ other others s' hle t ht u hu hroutine
    exact not_skipped_of_le ht hu hroutine (hfirmware ▸ hle)

/-- A device that is upgraded after the first question: the status tells version 6.2 then, and
version 7.4 from there on.  Everything else is answered by an empty list. -/
def upgradedDevice : Device Nat where
  answer count e :=
    let version := if count = 0 then "v6.2.9" else "v7.4.1"
    if e = ⟨"monitor/system/status", ""⟩ then
      (.ok (.obj [("results", .obj []), ("version", .str version)]), count + 1)
    else (.ok (.arr []), count + 1)

/-- The scrape during which `upgradedDevice` is upgraded goes by the old version throughout, the
next one by the new version. -/
theorem status_settles_version_upgraded :
    let first := (scrape {}).run upgradedDevice 0
    let second := (scrape {}).run upgradedDevice first.state
    let skipped := fun (report : ScrapeReport) =>
      (report.routines.filter fun entry => entry.label = "skipped").map (·.name)
    let versions := fun (report : ScrapeReport) =>
      (report.samples.filter fun x => x.name = "fortigate_version_info").map (·.label? "version")
    first.value.firmware = some ⟨6, 2⟩ ∧ second.value.firmware = some ⟨7, 4⟩ ∧
    skipped first.value = ["system_sensor_info", "ospf_neighbors"] ∧ skipped second.value = [] ∧
    versions first.value = [some "v6.2.9"] ∧ versions second.value = [some "v7.4.1"] ∧
    (⟨"monitor/system/status", ""⟩ : Endpoint) ∉ first.calls.tail ∧
    PolicyTraffic.splitEndpoints <:+: first.calls ∧
    (∀ t ∈ turnsOf upgradedDevice routineTable {} 0, t.routine.name = "firewall_policies" →
      t.calls <+: PolicyTraffic.splitEndpoints) ∧
    ∀ t ∈ turnsOf upgradedDevice routineTable {} 0,
      ∀ u ∈ turnsOf upgradedDevice routineTable {} first.state, t.routine = u.routine →
        t.label ≠ "skipped" → u.label ≠ "skipped" := by
  intro first second skipped versions
  have hnew : second.value.firmware = some ⟨7, 4⟩ := by decide +kernel
  have hold : ((statusOf (upgradedDevice.answer 0 ⟨"monitor/system/status", ""⟩).1).bind
      (·.version)).bind Firmware.parse? = some ⟨6, 2⟩ := by decide +kernel
  obtain ⟨hcalls, hstatus, -, -, hfirmware, -, -, -, hturns, -, hnewer⟩ :=
    status_settles_version upgradedDevice {} 0
  refine ⟨hfirmware.trans hold, hnew, by decide +kernel, by decide +kernel, by decide +kernel,
    by decide +kernel, ?_, by decide +kernel, fun t ht hname => ?_, ?_⟩
  · rwa [show first.calls = _ from hcalls, List.tail_cons]
  · refine ((hturns t ht).2.2 hname).2 fun v hv => ?_
    obtain rfl := Option.some.inj (hold.symm.trans hv)
    rw [← not_le, Firmware.le_iff]
    decide
  · refine hnewer upgradedDevice {} first.state fun v hv => ⟨_, hnew, ?_⟩
    obtain rfl := Option.some.inj (hold.symm.trans hv)
    rw [Firmware.le_iff]
    decide

end Scrape
end FirewallProbe
