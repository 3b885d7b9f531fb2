import FirewallProbe.Proofs.Collected
import FirewallProbe.Proofs.Correlation
import FirewallProbe.Proofs.Schema.Contents
import FirewallProbe.Proofs.Scrape.PolicyTables

/-!
# The traffic of policies under their names

The statistics of firewall policies carry no names; these stand in the configuration.  Whatever the
firmware and the answers are, each record of statistics is reported once, in the order received and
under the name of the last configuration with its identifier.

## Key results

- `PolicyTraffic.gives_fetchConfigs_iff` / `gives_fetchSamples_iff`: what the endpoints give
- `PolicyTraffic.samplesOfSource_eq`: the samples of one endpoint, record by record
- `PolicyTraffic.value_collect_eq_ok_iff`: when traffic is collected, and what
- `PolicyTraffic.policies_joined`: all samples of the routine
-/

namespace FirewallProbe

variable {σ : Type} {device : Device σ} {s s' : σ}

/-! ## Identifiers and names -/

namespace PolicyConfig

theorem names_nodup : record.names.Nodup := by decide

/-- The identifier of a configuration is the text at its key. -/
theorem uuid_isShownBy : record.IsShownBy "uuid" Json.textOr (·.uuid) :=
  Record.isShownBy_text (by decide) rfl (fun _ _ => rfl) (by simp [record])

/-- The name of a configuration is the text at its key. -/
theorem name_isShownBy : record.IsShownBy "name" Json.textOr (·.name) :=
  Record.isShownBy_text (by decide) rfl (fun _ _ => rfl) (by simp [record])

end PolicyConfig

namespace PolicyTraffic

theorem names_nodup : record.names.Nodup := by decide

/-- The identifier of a record of statistics is the text at its key; null counts as no text. -/
theorem key_isShownBy : record.IsShownBy "uuid" Json.textOr key := by
  refine Record.isShownBy_of_optional (by decide) rfl (fun v x a hx => ?_) (by simp [record, key])
  exact (Decoder.textOr_of_nullable hx).symm

/-- The name under which traffic is reported: that of the implicit policy for number zero, else that
of the last configuration with the identifier, if there is one. -/
def nameAmong (configs : List PolicyConfig) (p : PolicyTraffic) : String :=
  if p.number = 0 then "Implicit Deny"
  else
    match (configs.filter fun c => c.uuid = p.uuid.getD "").getLast? with
    | some c => c.name
    | none => "<UNKNOWN>"

/-- The values of a record of statistics, each with the key under which it is answered. -/
def reportedNumbers : List (ReportedNumber PolicyTraffic) := [
  ⟨"active_sessions", (·.activeSessions), id, activeSessionsFamily⟩,
  ⟨"bytes", (·.bytes), id, bytesTotal⟩,
  ⟨"packets", (·.packets), id, packetsTotal⟩,
  ⟨"hit_count", (·.hits), id, hitsTotal⟩,
  ⟨"software_bytes", (·.softwareBytes), id, softwareBytesTotal⟩,
  ⟨"asic_bytes", (·.asicBytes), id, asicBytesTotal⟩]

/-- A record of statistics has the six values of `reportedNumbers`. -/
theorem areShownBy_reportedNumbers :
    ReportedNumber.AreShownBy reportedNumbers record labelNames where
  names := by decide
  shown n hn := by
    simp only [reportedNumbers, List.mem_cons, List.not_mem_nil, or_false] at hn
    rcases hn with rfl | rfl | rfl | rfl | rfl | rfl
    all_goals
      exact Record.isShownBy_number (by decide) rfl (fun _ _ => rfl) (by simp [record])
  blank := by simp [reportedNumbers, record]
  labels := by
    simp [reportedNumbers, activeSessionsFamily, bytesTotal, packetsTotal, hitsTotal,
      softwareBytesTotal, asicBytesTotal, Family.gauge, Family.counter]

/-- The number of the policy is the natural number at its key. -/
theorem number_isShownBy : record.IsShownBy "policyid" Json.natOr (·.number) :=
  Record.isShownBy_word64 (by decide) rfl (fun _ _ => rfl) (by simp [record])

/-- The six samples of a record of statistics. -/
def joinedSamples (configs : List PolicyConfig) (vdom protocol : String) (p : PolicyTraffic) :
    List Sample :=
  [(activeSessionsFamily, p.activeSessions), (bytesTotal, p.bytes), (packetsTotal, p.packets),
    (hitsTotal, p.hits), (softwareBytesTotal, p.softwareBytes), (asicBytesTotal, p.asicBytes)].map
    fun (family, value) => {
      name := family.name
      help := family.help
      kind := family.kind
      value := value
      labels := [("vdom", vdom), ("protocol", protocol), ("name", nameAmong configs p),
        ("policy_id", toString p.number), ("uuid", p.uuid.getD "")] }

/-- `samples` of a record of statistics are `joinedSamples`: `build` finds the configuration that
`nameAmong` names. -/
theorem samples_find?_build (configs : List PolicyConfig) (vdom protocol : String)
    (p : PolicyTraffic) :
    samples vdom protocol p ((CorrelationIndex.build (·.uuid) configs).value.find? p.key) =
      joinedSamples configs vdom protocol p := by
  have hname : correlationLabel p.number
      (((CorrelationIndex.build (·.uuid) configs).value.find? p.key).map (·.name)) =
        nameAmong configs p := by
    rw [CorrelationIndex.find?_build, lastWith?, correlationLabel, nameAmong, key]
    cases (configs.filter fun c => c.uuid = p.uuid.getD "").getLast? <;> rfl
  rw [samples, hname]
  rfl

/-- `samplesOfSource` goes record by record. -/
theorem samplesOfSource_eq (configs : List PolicyConfig) (protocol : String)
    (envelopes : List (Envelope (List PolicyTraffic))) :
    samplesOfSource (CorrelationIndex.build (·.uuid) configs).value protocol envelopes =
      envelopes.flatMap fun e => e.results.flatMap (joinedSamples configs e.vdom protocol) := by
  refine List.flatMap_congr fun e _ => ?_
  rw [correlate, List.flatMap_map]
  exact List.flatMap_congr fun p _ => samples_find?_build configs e.vdom protocol p

/-! ## What the values of records tell -/

/-- The identifier and the name of a configuration, read off its value. -/
def configured (config : Json) : String × String :=
  let entries := PolicyConfig.record.entriesOf config
  (Json.textAt "uuid" entries, Json.textAt "name" entries)

/-- `nameAmong`, read off the entries of a record of statistics; a configuration is given by its
identifier and its name. -/
def reportedName (configs : List (String × String)) (entries : List (String × Json)) : String :=
  if Json.natAt "policyid" entries = 0 then "Implicit Deny"
  else
    match (configs.filter fun c => c.1 = Json.textAt "uuid" entries).getLast? with
    | some c => c.2
    | none => "<UNKNOWN>"

/-- What is reported about a record of statistics, read off its value. -/
def reportedTraffic (configs : List (String × String)) (vdom protocol : String) (traffic : Json) :
    List Sample :=
  let entries := record.entriesOf traffic
  ReportedNumber.samples reportedNumbers
    [("vdom", vdom), ("protocol", protocol), ("name", reportedName configs entries),
      ("policy_id", toString (Json.natAt "policyid" entries)),
      ("uuid", Json.textAt "uuid" entries)] entries

/-- `configured` is what was read of a configuration. -/
theorem configured_eq {v : Json} {c : PolicyConfig}
    (hread : Decoder.record PolicyConfig.record v = .ok c) : configured v = (c.uuid, c.name) := by
  rw [configured, PolicyConfig.uuid_isShownBy.textOf PolicyConfig.names_nodup rfl hread,
    PolicyConfig.name_isShownBy.textOf PolicyConfig.names_nodup rfl hread]

section

variable {configs : List PolicyConfig} {v : Json} {p : PolicyTraffic}

/-- `nameAmong` is the name that the value of a record tells. -/
theorem nameAmong_eq_reportedName (hread : Decoder.record record v = .ok p) :
    nameAmong configs p =
      reportedName (configs.map fun c => (c.uuid, c.name)) (record.entriesOf v) := by
  rw [nameAmong, reportedName, ← key_isShownBy.textOf names_nodup rfl hread,
    ← number_isShownBy.natAt names_nodup rfl hread, key, List.filter_map, List.getLast?_map]
  simp only [Function.comp_def]
  cases (configs.filter fun c => c.uuid = p.uuid.getD "").getLast? <;> rfl

/-- `joinedSamples` of a record of statistics are those that its value tells. -/
theorem joinedSamples_eq_reportedTraffic (vdom protocol : String)
    (hread : Decoder.record record v = .ok p) :
    joinedSamples configs vdom protocol p =
      reportedTraffic (configs.map fun c => (c.uuid, c.name)) vdom protocol v := by
  have hsamples := areShownBy_reportedNumbers.samples_eq hread
    [vdom, protocol, nameAmong configs p, toString p.number, p.key]
  rw [reportedTraffic, ← nameAmong_eq_reportedName hread,
    ← number_isShownBy.natAt names_nodup rfl hread, ← key_isShownBy.textOf names_nodup rfl hread]
  exact hsamples

end

/-! ## What the endpoints give -/

/-- How the configurations of an endpoint are read. -/
def configDecoder : Decoder (List (Envelope (List PolicyConfig))) :=
  Envelope.listDecoder (Decoder.list (Decoder.record PolicyConfig.record))

/-- How the statistics of an endpoint are read. -/
def statisticsDecoder : Decoder (List (Envelope (List PolicyTraffic))) :=
  Envelope.listDecoder (Decoder.list (Decoder.record record))

/-- `fetchConfigs` gives the configurations of all endpoints, in order. -/
theorem gives_fetchConfigs_iff (endpoints : List Endpoint) (configs : List PolicyConfig) :
    Collection.Gives device s (fetchConfigs endpoints) configs s' ↔
      ∃ tables, device.Reads configDecoder s endpoints tables ∧
        configs = tables.flatten.flatMap (·.results) ∧ s' = device.after s endpoints := by
  induction endpoints generalizing s s' configs with
  | nil => simp [fetchConfigs, Collection.gives_pure_iff, Device.Reads, Device.replies]
  | cons e rest ih =>
    simp only [fetchConfigs, Collection.gives_bind_iff, Collection.gives_fetch_iff, ih,
      Collection.gives_pure_iff, Device.Reads, Device.replies, List.forall₂_cons_left_iff]
    constructor
    · rintro ⟨envelopes, _, ⟨hread, rfl⟩, _, _, ⟨tables, htables, rfl, rfl⟩, rfl, rfl⟩
      exact ⟨envelopes :: tables, ⟨envelopes, tables, hread, htables, rfl⟩, by simp, rfl⟩
    · rintro ⟨_, ⟨envelopes, tables, hread, htables, rfl⟩, rfl, rfl⟩
      exact ⟨envelopes, _, ⟨hread, rfl⟩, _, _, ⟨tables, htables, rfl, rfl⟩, by simp, rfl⟩

/-- `fetchSamples` gives the samples of all endpoints, in order and each with its protocol. -/
theorem gives_fetchSamples_iff (index : CorrelationIndex PolicyConfig) (sources : List Source)
    (found : List Sample) :
    Collection.Gives device s (fetchSamples index sources) found s' ↔
      ∃ statistics, device.Reads statisticsDecoder s (sources.map (·.endpoint)) statistics ∧
        found = ((sources.map (·.protocol)).zip statistics).flatMap
          (fun (protocol, envelopes) => samplesOfSource index protocol envelopes) ∧
        s' = device.after s (sources.map (·.endpoint)) := by
  induction sources generalizing s s' found with
  | nil => simp [fetchSamples, Collection.gives_pure_iff, Device.Reads, Device.replies]
  | cons source rest ih =>
    simp only [fetchSamples, Collection.gives_bind_iff, Collection.gives_fetch_iff, ih,
      Collection.gives_pure_iff, Device.Reads, Device.replies, List.map_cons,
      List.forall₂_cons_left_iff]
    constructor
    · rintro ⟨envelopes, _, ⟨hread, rfl⟩, _, _, ⟨others, hothers, rfl, rfl⟩, rfl, rfl⟩
      exact ⟨envelopes :: others, ⟨envelopes, others, hread, hothers, rfl⟩, rfl, rfl⟩
    · rintro ⟨_, ⟨envelopes, others, hread, hothers, rfl⟩, rfl, rfl⟩
      exact ⟨envelopes, _, ⟨hread, rfl⟩, _, _, ⟨others, hothers, rfl, rfl⟩, rfl, rfl⟩

/-- Traffic is collected if all configurations and all statistics can be read, and then record by
record. -/
theorem value_collect_eq_ok_iff (device : Device σ) (ctx : ScrapeContext) (s : σ)
    (found : List Sample) :
    ((routine.collect ctx).run.run device s).value = .ok found ↔
      ∃ tables ipv4 ipv6,
        device.Reads configDecoder s (configEndpoints ctx.policy) tables ∧
        device.Reads statisticsDecoder (device.after s (configEndpoints ctx.policy))
          ((sources ctx.policy).map (·.endpoint)) [ipv4, ipv6] ∧
        let configs := tables.flatten.flatMap (·.results)
        found =
          (ipv4.flatMap fun e => e.results.flatMap (joinedSamples configs e.vdom "ipv4")) ++
            ipv6.flatMap fun e => e.results.flatMap (joinedSamples configs e.vdom "ipv6") := by
  rw [← Collection.exists_gives_iff]
  simp only [routine, Collection.gives_bind_iff, gives_fetchConfigs_iff,
    Collection.gives_ofLogged_iff, gives_fetchSamples_iff, map_protocol_sources]
  constructor
  · rintro ⟨_, _, _, ⟨tables, htables, rfl, rfl⟩, _, _, ⟨rfl, rfl⟩, statistics, hread, rfl, rfl⟩
    -- There are two endpoints with statistics, so two answers were read.
    have hlength : statistics.length = ((sources ctx.policy).map (·.protocol)).length := by
      rw [List.length_map, hread.length_eq, List.length_map]
    rw [map_protocol_sources] at hlength
    obtain ⟨ipv4, ipv6, rfl⟩ := List.length_eq_two.1 hlength
    refine ⟨tables, ipv4, ipv6, htables, hread, ?_⟩
    simp [samplesOfSource_eq]
  · rintro ⟨tables, ipv4, ipv6, htables, hread, rfl⟩
    refine ⟨_, _, _, ⟨tables, htables, rfl, rfl⟩, _, _, ⟨rfl, rfl⟩, _, hread, ?_, rfl⟩
    simp [samplesOfSource_eq]

/-- How an endpoint with one envelope for each virtual domain is answered. -/
def answeredDecoder : Decoder (List (Envelope (List Json))) :=
  Envelope.listDecoder (Decoder.list Decoder.any)

/-- The names of all configurations in the tables of some endpoints, by their identifiers. -/
def configuredIn (tables : List (List (Envelope (List Json)))) : List (String × String) :=
  tables.flatten.flatMap fun e => e.results.map configured

/-- What is reported about the statistics of an endpoint, read off the envelopes of its answer. -/
def reportedSource (configs : List (String × String)) (protocol : String)
    (envelopes : List (Envelope (List Json))) : List Sample :=
  envelopes.flatMap fun e => e.results.flatMap (reportedTraffic configs e.vdom protocol)

/-- The configurations that `configDecoder` read are those that the answers have. -/
theorem exists_configuredIn {endpoints : List Endpoint}
    {tables : List (List (Envelope (List PolicyConfig)))}
    (h : device.Reads configDecoder s endpoints tables) :
    ∃ answered, device.Reads answeredDecoder s endpoints answered ∧
      (tables.flatten.flatMap (·.results)).map (fun c => (c.uuid, c.name)) =
        configuredIn answered := by
  obtain ⟨answered, hanswered, hrel⟩ := h.refine (refines_records PolicyConfig.record)
  refine ⟨answered, hanswered, ?_⟩
  rw [List.map_flatMap]
  refine flatMap_eq_of_forall₂ (List.rel_flatten hrel) fun e e' he => ?_
  rw [← List.forall₂_eq_eq_eq, List.forall₂_map_left_iff, List.forall₂_map_right_iff]
  exact he.2.imp fun c v hread => (configured_eq hread).symm

/-- `joinedSamples` of statistics that were read are those that the answer tells. -/
theorem flatMap_joinedSamples_eq_reportedSource (configs : List PolicyConfig) (protocol : String)
    {envelopes : List (Envelope (List PolicyTraffic))} {answered : List (Envelope (List Json))}
    (h : List.Forall₂ (fun e e' => e.vdom = e'.vdom ∧
      List.Forall₂ (fun p v => Decoder.record record v = .ok p) e.results e'.results)
      envelopes answered) :
    envelopes.flatMap (fun e => e.results.flatMap (joinedSamples configs e.vdom protocol)) =
      reportedSource (configs.map fun c => (c.uuid, c.name)) protocol answered := by
  refine flatMap_eq_of_forall₂ h fun e e' ⟨hvdom, hresults⟩ => ?_
  rw [hvdom]
  exact flatMap_eq_of_forall₂ hresults fun p v => joinedSamples_eq_reportedTraffic e'.vdom protocol

/-- Traffic that is collected is reported as the answers have it. -/
theorem exists_answered_of_collect {ctx : ScrapeContext} {found : List Sample}
    (h : ((routine.collect ctx).run.run device s).value = .ok found) :
    ∃ tables ipv4 ipv6,
      device.Reads answeredDecoder s (configEndpoints ctx.policy) tables ∧
      device.Reads answeredDecoder (device.after s (configEndpoints ctx.policy))
        ((sources ctx.policy).map (·.endpoint)) [ipv4, ipv6] ∧
      found = reportedSource (configuredIn tables) "ipv4" ipv4 ++
        reportedSource (configuredIn tables) "ipv6" ipv6 := by
  obtain ⟨_, _, _, htables, hstatistics, rfl⟩ := (value_collect_eq_ok_iff device ctx s found).1 h
  obtain ⟨tables, hanswered, hconfigs⟩ := exists_configuredIn htables
  obtain ⟨_, hsources, hrel⟩ := hstatistics.refine (refines_records record)
  rcases hrel with _ | ⟨hipv4, _ | ⟨hipv6, _ | _⟩⟩
  refine ⟨tables, _, _, hanswered, hsources, ?_⟩
  rw [← hconfigs]
  exact congrArg₂ _ (flatMap_joinedSamples_eq_reportedSource _ "ipv4" hipv4)
    (flatMap_joinedSamples_eq_reportedSource _ "ipv6" hipv6)

/-- Traffic is reported if and only if all configurations and all statistics can be read, and then
record by record: the statistics of the first protocol before those of the second, the envelopes of
an answer and the records of an envelope in the order received, six samples for each of them, with
its values and under its name among all configurations.  An identifier that is missing counts as
empty, in configurations and in statistics, where it may also be null.

`joinedSamples` are the samples of a record that was read, and `reportedTraffic` those that stand in
the answer: its number, its identifier and its six values, each at its key. -/
theorem policies_joined (device : Device σ) (ctx : ScrapeContext) (s : σ) (found : List Sample) :
    (((routine.collect ctx).run.run device s).value = .ok found ↔
      ∃ tables ipv4 ipv6,
        device.Reads configDecoder s (configEndpoints ctx.policy) tables ∧
        device.Reads statisticsDecoder (device.after s (configEndpoints ctx.policy))
          ((sources ctx.policy).map (·.endpoint)) [ipv4, ipv6] ∧
        let configs := tables.flatten.flatMap (·.results)
        found =
          (ipv4.flatMap fun e => e.results.flatMap (joinedSamples configs e.vdom "ipv4")) ++
            ipv6.flatMap fun e => e.results.flatMap (joinedSamples configs e.vdom "ipv6")) ∧
    (((routine.collect ctx).run.run device s).value = .ok found →
      ∃ tables ipv4 ipv6,
        device.Reads answeredDecoder s (configEndpoints ctx.policy) tables ∧
        device.Reads answeredDecoder (device.after s (configEndpoints ctx.policy))
          ((sources ctx.policy).map (·.endpoint)) [ipv4, ipv6] ∧
        let configs := tables.flatten.flatMap fun e => e.results.map configured
        found =
          (ipv4.flatMap fun e => e.results.flatMap (reportedTraffic configs e.vdom "ipv4")) ++
            ipv6.flatMap fun e => e.results.flatMap (reportedTraffic configs e.vdom "ipv6")) ∧
    (∀ members c, Decoder.record PolicyConfig.record (.obj members) = .ok c →
      c.uuid = Json.textAt "uuid" members ∧ c.name = Json.textAt "name" members) ∧
    ∀ members p, Decoder.record record (.obj members) = .ok p →
      p.number = Json.natAt "policyid" members ∧ p.uuid.getD "" = Json.textAt "uuid" members := by
  refine ⟨value_collect_eq_ok_iff device ctx s found, exists_answered_of_collect,
    fun members c hc => ?_, fun members p hp => ?_⟩
  · exact ⟨PolicyConfig.uuid_isShownBy.textAt rfl hc, PolicyConfig.name_isShownBy.textAt rfl hc⟩
  · exact ⟨number_isShownBy.natAt names_nodup rfl hp, key_isShownBy.textAt rfl hp⟩

/-- A device with two tables of policies and statistics of both protocols: an identifier that is
configured twice, one that is not configured, the implicit policy with a configured identifier, and
identifiers that are absent and null. -/
def mixedTraffic : Device Unit :=
  let envelope (vdom : String) (results : List Json) : Json :=
    .obj [("vdom", .str vdom), ("results", .arr results)]
  .ofFunction (Scrape.answersAt [
    (⟨"cmdb/firewall/policy", "vdom=*"⟩, .arr [envelope "dmz" [
      .obj [("uuid", .str "u1"), ("name", .str "old")],
      .obj [("uuid", .str "u2"), ("name", .str "deny")]]]),
    (⟨"cmdb/firewall/policy6", "vdom=*"⟩, .arr [envelope "root" [
      .obj [("uuid", .str "u1"), ("name", .str "new")],
      .obj [("name", .str "guest")]]]),
    (⟨"monitor/firewall/policy/select", "vdom=*"⟩, .arr [envelope "root" [
      .obj [("policyid", .int 7), ("uuid", .str "u1"), ("bytes", .int 10), ("hit_count", .int 3)],
      .obj [("uuid", .str "u2"), ("active_sessions", .int 4), ("packets", .int 1)]]]),
    (⟨"monitor/firewall/policy6/select", "vdom=*"⟩, .arr [envelope "dmz" [
      .obj [("policyid", .int 8), ("uuid", .str "u9"), ("software_bytes", .int 5)],
      .obj [("policyid", .int 9)],
      .obj [("policyid", .int 10), ("uuid", .null), ("asic_bytes", .float 2.5)]]])])

/-- The traffic of `mixedTraffic`, with firmware that keeps two tables. -/
theorem policies_joined_mixed :
    let ctx : ScrapeContext := ⟨some ⟨6, 2⟩, none, {}⟩
    ∃ found, ((routine.collect ctx).run.run mixedTraffic ()).value = .ok found ∧
      found.map (fun x => x.labels.map (·.2)) =
        List.replicate 6 ["root", "ipv4", "new", "7", "u1"] ++
          List.replicate 6 ["root", "ipv4", "Implicit Deny", "0", "u2"] ++
          List.replicate 6 ["dmz", "ipv6", "<UNKNOWN>", "8", "u9"] ++
          List.replicate 6 ["dmz", "ipv6", "guest", "9", ""] ++
          List.replicate 6 ["dmz", "ipv6", "guest", "10", ""] ∧
      (found.filter fun x => x.value ≠ 0.0).map (fun x => (x.name, x.value)) = [
        ("fortigate_policy_bytes_total", 10.0), ("fortigate_policy_hit_count_total", 3.0),
        ("fortigate_policy_active_sessions", 4.0), ("fortigate_policy_packets_total", 1.0),
        ("fortigate_policy_software_bytes_total", 5.0),
        ("fortigate_policy_asic_bytes_total", 2.5)] ∧
      ∃ tables ipv4 ipv6,
        mixedTraffic.Reads answeredDecoder () (configEndpoints ctx.policy) tables ∧
        mixedTraffic.Reads answeredDecoder () ((sources ctx.policy).map (·.endpoint))
          [ipv4, ipv6] ∧
        let configs := tables.flatten.flatMap fun e => e.results.map configured
        found =
          (ipv4.flatMap fun e => e.results.flatMap (reportedTraffic configs e.vdom "ipv4")) ++
            ipv6.flatMap fun e => e.results.flatMap (reportedTraffic configs e.vdom "ipv6") := by
  intro ctx
  have hshown : ((routine.collect ctx).run.run mixedTraffic ()).value.toOption.map (fun found =>
      (found.map (fun x => x.labels.map (·.2)),
        (found.filter fun x => x.value ≠ 0.0).map fun x => (x.name, x.value))) = some
      (List.replicate 6 ["root", "ipv4", "new", "7", "u1"] ++
          List.replicate 6 ["root", "ipv4", "Implicit Deny", "0", "u2"] ++
          List.replicate 6 ["dmz", "ipv6", "<UNKNOWN>", "8", "u9"] ++
          List.replicate 6 ["dmz", "ipv6", "guest", "9", ""] ++
          List.replicate 6 ["dmz", "ipv6", "guest", "10", ""], [
        ("fortigate_policy_bytes_total", 10.0), ("fortigate_policy_hit_count_total", 3.0),
        ("fortigate_policy_active_sessions", 4.0), ("fortigate_policy_packets_total", 1.0),
        ("fortigate_policy_software_bytes_total", 5.0),
        ("fortigate_policy_asic_bytes_total", 2.5)]) := by decide +kernel
  obtain ⟨found, hfound, hpair⟩ := Except.map_toOption_eq_some_iff.1 hshown
  obtain ⟨hlabels, hvalues⟩ := Prod.mk.inj hpair
  obtain ⟨-, hreported, -⟩ := policies_joined mixedTraffic ctx () found
  exact ⟨found, hfound, hlabels, hvalues, hreported hfound⟩

end PolicyTraffic
end FirewallProbe
