import FirewallProbe.Proofs.Collected
import FirewallProbe.Proofs.Emission.Keyed
import FirewallProbe.Proofs.Schema.Contents

/-!
# Measurements of links

What is reported about a link can be read off the value that describes it in an answer: indicators
of its state, and for each measurement one sample with the number at its key.  Where there is no
number, the sample is NaN, in whatever unit the measurement is reported.

## Key results

- `LinkFamilies.isShownBy_measured`: a measurement is read from the value at its key
- `LinkFamilies.samples_eq_reported`: the samples of a link
- `LinkFamilies.filter_name_reported` / `isNaN_convert`: the sample of a measurement, made or not
- `LinkFamilies.value_collect_eq_ok`: all samples of a routine
-/

namespace FirewallProbe

/-! ## Numbers in answers -/

namespace Json

/-- The number that a value is; what is no number counts as not measured. -/
def measuredOr : Json → Float
  | .int n => Binary64.ofInt n
  | .float x => x
  | _ => notMeasured

/-- The number at a key of an object, if there is one. -/
def measuredAt (key : String) (members : List (String × Json)) : Float :=
  ((valueAt? key members).map measuredOr).getD notMeasured

/-- `measuredAt` takes what is absent or null for not measured. -/
theorem measuredAt_of_missing {key : String} {members : List (String × Json)}
    (h : valueAt? key members ∈ [none, some .null]) : measuredAt key members = notMeasured := by
  simp only [List.mem_cons, List.not_mem_nil, or_false] at h
  rcases h with h | h
  · rw [measuredAt, h]
    rfl
  · rw [measuredAt, h]
    rfl

end Json

/-- `Decoder.nullable` reads null as no number, which `measuredOr` takes for not measured. -/
theorem Decoder.measuredOr_of_nullable {v : Json} {x : Option Float}
    (h : Decoder.nullable Decoder.double v = .ok x) : v.measuredOr = orNotMeasured x := by
  cases v <;> cases h <;> rfl

/-! ## Links -/

/-- The status of a link is the text at its key. -/
theorem LinkHealth.status_isShownBy : record.IsShownBy "status" Json.textOr (·.status) :=
  Record.isShownBy_text (by decide) rfl (fun _ _ => rfl) (by simp [record])

/-- A measurement of a link: the key under which it is answered, the conversion of its unit and the
family in which it is reported. -/
structure LinkMeasurement where
  key : String
  view : LinkHealth → Option Float
  convert : Float → Float
  family : Family

namespace LinkFamilies

/-- The measurements of a link. -/
def measured (f : LinkFamilies) : List LinkMeasurement := [
  ⟨"latency", (·.latency), millisToSeconds, f.latency⟩,
  ⟨"jitter", (·.jitter), millisToSeconds, f.jitter⟩,
  ⟨"packet_loss", (·.packetLoss), percentToRatio, f.packetLoss⟩,
  ⟨"packet_sent", (·.packetsSent), id, f.packetsSent⟩,
  ⟨"packet_received", (·.packetsReceived), id, f.packetsReceived⟩,
  ⟨"session", (·.sessions), id, f.sessions⟩,
  ⟨"tx_bandwidth", (·.txBandwidth), mbpsToBps, f.txBandwidth⟩,
  ⟨"rx_bandwidth", (·.rxBandwidth), mbpsToBps, f.rxBandwidth⟩,
  ⟨"state_changed", (·.stateChanged), id, f.stateChanged⟩]

/-- What is reported about a link, read off the value that describes it. -/
def reported (f : LinkFamilies) (labels : List String) (v : Json) : List Sample :=
  let entries := LinkHealth.record.entriesOf v
  f.status.samplePerState labels (Json.textAt "status" entries) f.states ++
    f.measured.map fun m => m.family.sample (m.convert (Json.measuredAt m.key entries)) labels

variable {f : LinkFamilies} {m : LinkMeasurement}

/-- A measurement `m` is read from the value at its key. -/
theorem isShownBy_measured (hm : m ∈ f.measured) :
    LinkHealth.record.IsShownBy m.key Json.measuredOr fun s => orNotMeasured (m.view s) := by
  simp only [measured, List.mem_cons, List.not_mem_nil, or_false] at hm
  rcases hm with rfl | rfl | rfl | rfl | rfl | rfl | rfl | rfl | rfl
  all_goals
    exact Record.isShownBy_of_optional (by decide) rfl
      (fun _ _ _ hx => (Decoder.measuredOr_of_nullable hx).symm) (by simp [LinkHealth.record])

/-- The unit of a measurement makes no number of what was not measured. -/
theorem isNaN_convert (hm : m ∈ f.measured) : (m.convert notMeasured).isNaN = true := by
  simp only [measured, List.mem_cons, List.not_mem_nil, or_false] at hm
  rcases hm with rfl | rfl | rfl | rfl | rfl | rfl | rfl | rfl | rfl <;> dsimp only <;>
    decide +kernel

/-- `samples` of a link are those that its value tells. -/
theorem samples_eq_reported (f : LinkFamilies) (labels : List String) {v : Json} {link : LinkHealth}
    (hread : Decoder.record LinkHealth.record v = .ok link) :
    f.samples labels link = f.reported labels v := by
  have hstatus : link.status = Json.textAt "status" (LinkHealth.record.entriesOf v) :=
    LinkHealth.status_isShownBy.decoder (by decide) hread
  -- Every measurement starts as not measured, and is read from its key.
  have hmeasured : ∀ m ∈ f.measured,
      orNotMeasured (m.view link) = Json.measuredAt m.key (LinkHealth.record.entriesOf v) := by
    intro m hm
    have hblank : orNotMeasured (m.view LinkHealth.record.blank) = notMeasured := by
      simp only [measured, List.mem_cons, List.not_mem_nil, or_false] at hm
      rcases hm with rfl | rfl | rfl | rfl | rfl | rfl | rfl | rfl | rfl <;> rfl
    rw [(isShownBy_measured hm).decoder (by decide) hread, hblank, Json.measuredAt]
  have hsamples : Measurement.samples f.measurements labels link = f.measured.map fun m =>
      m.family.sample (m.convert (orNotMeasured (m.view link))) labels := rfl
  rw [samples, reported, hstatus, hsamples]
  exact congrArg _ (List.map_congr_left fun m hm => by rw [hmeasured m hm])

/-- `reported` has one sample in the family of a measurement, whether it was made or not. -/
theorem filter_name_reported (hnames : f.names.Nodup) (hm : m ∈ f.measured) (labels : List String)
    (v : Json) :
    (f.reported labels v).filter (fun x => x.name = m.family.name) =
      [m.family.sample (m.convert (Json.measuredAt m.key (LinkHealth.record.entriesOf v)))
        labels] := by
  have hkeys : f.measurements.map (·.family.name) = f.measured.map (·.family.name) := rfl
  rw [names, hkeys, List.nodup_cons] at hnames
  obtain ⟨hstatus, hmeasured⟩ := hnames
  -- The indicators of the state have a name of their own.
  have hnone : (f.status.samplePerState labels
      (Json.textAt "status" (LinkHealth.record.entriesOf v)) f.states).filter
        (fun x => x.name = m.family.name) = [] := by
    rw [List.filter_eq_nil_iff]
    intro x hx
    obtain ⟨_, -, rfl⟩ := List.mem_map.1 hx
    have hne : f.status.name ≠ m.family.name := fun h => hstatus (h ▸ List.mem_map_of_mem hm)
    exact fun h => hne (of_decide_eq_true h)
  have hown := List.filter_key_eq_singleton hmeasured hm
  rw [reported, List.filter_append, hnone, List.nil_append, List.filter_map]
  exact congrArg (List.map _) hown

/-! ## Routines -/

/-- What is reported about all links of an answer: those of the envelopes in order, by the names of
their monitors and interfaces. -/
def reportedOfAll (f : LinkFamilies) (envelopes : List (Envelope (Dict (Dict Json)))) :
    List Sample :=
  envelopes.flatMap fun e =>
    e.results.entries.flatMap fun (monitor, links) =>
      links.entries.flatMap fun (interface, v) => f.reported [e.vdom, monitor, interface] v

/-- `samplesOfAll` are those that the values tell from which the links were read. -/
theorem samplesOfAll_eq_reportedOfAll (f : LinkFamilies) {v : Json}
    {envelopes : List (Envelope Links)}
    (h : Envelope.listDecoder (Decoder.dict (Decoder.dict (Decoder.record LinkHealth.record))) v =
      .ok envelopes) :
    ∃ answered, Envelope.listDecoder (Decoder.dict (Decoder.dict Decoder.any)) v = .ok answered ∧
      f.samplesOfAll envelopes = f.reportedOfAll answered := by
  have hlink : ∀ v, Refines (fun link v => Decoder.record LinkHealth.record v = .ok link)
      (Decoder.record LinkHealth.record v) (Decoder.any v) := fun v link hv => ⟨v, rfl, hv⟩
  obtain ⟨answered, hanswered, hrel⟩ :=
    refines_listDecoder Dict.rel_empty (refines_dict (refines_dict hlink)) v envelopes h
  -- The links and their values stand in the same places: envelope, monitor, interface.
  refine ⟨answered, hanswered, flatMap_eq_of_forall₂ hrel fun e e' he => ?_⟩
  obtain ⟨hvdom, hresults⟩ := he
  rw [hvdom]
  refine flatMap_eq_of_forall₂ hresults fun monitor monitor' hmonitor => ?_
  refine flatMap_eq_of_forall₂ hmonitor.2 fun link link' hlink => ?_
  show f.samples [e'.vdom, monitor.1, link.1] link.2 =
    f.reported [e'.vdom, monitor'.1, link'.1] link'.2
  rw [hmonitor.1, hlink.1]
  exact samples_eq_reported f _ hlink.2

/-- What a routine about links collects is told by the answer to its question. -/
theorem value_collect_eq_ok {σ : Type} (f : LinkFamilies) (name path : String)
    {device : Device σ} {ctx : ScrapeContext} {s : σ} {found : List Sample}
    (h : (((f.routine name path).collect ctx).run.run device s).value = .ok found) :
    ∃ v answered, (device.answer s ⟨path, everyDomain⟩).1 = .ok v ∧
      Envelope.listDecoder (Decoder.dict (Decoder.dict Decoder.any)) v = .ok answered ∧
      found = f.reportedOfAll answered := by
  rw [routine, Routine.value_collect_ofEndpoint, Except.map_eq_ok_iff] at h
  obtain ⟨envelopes, hread, rfl⟩ := h
  obtain ⟨v, hanswer, hlinks⟩ := Collection.readAnswer_eq_ok_iff.1 hread
  obtain ⟨answered, hanswered, hfound⟩ := samplesOfAll_eq_reportedOfAll f hlinks
  exact ⟨v, answered, hanswer, hanswered, hfound⟩

end LinkFamilies
end FirewallProbe
