import FirewallProbe.Proofs.Firmware.Order
import FirewallProbe.Proofs.Scrape.Outcomes

/-!
# One table of policies or two

Firmware from some version on keeps the policies of both protocols in one table, older firmware in
two.  A device with one table that lists the policies of both tables of another device, and with the
same statistics, is reported alike: tables are read part by part, only the last configuration with
an identifier counts, and the samples carry the protocol of the statistics.

## Key results

- `Envelope.list?_append`: a list that consists of two parts is read part by part
- `PolicyTraffic.yields_collect`: what is reported depends on the values of the answers alone
- `Scrape.policies_reported_alike`: devices with one table and with two are reported alike
-/

namespace FirewallProbe

/-! ## Lists of envelopes -/

/-- The envelopes of an answer, if they can be read. -/
def Envelope.list? {α : Type} [Inhabited α] (results : Decoder α) (v : Json) :
    Option (List (Envelope α)) :=
  (Envelope.listDecoder results v).toOption

/-- `list?` reads a list that consists of two parts part by part. -/
theorem Envelope.list?_append {α : Type} [Inhabited α] (results : Decoder α) (xs ys : List Json) :
    list? results (.arr (xs ++ ys)) =
      (list? results (.arr xs)).bind fun front => (list? results (.arr ys)).map (front ++ ·) := by
  simp only [list?, listDecoder, Decoder.list, List.mapM_append, Except.toOption_bind]
  cases ys.mapM (decoder results) <;> rfl

variable {σ τ : Type} {device : Device σ}

namespace PolicyTraffic

/-! ## What is collected -/

/-- The configurations in tables, if all of them can be read. -/
def configsIn : List (Option Json) → Option (List PolicyConfig)
  | [] => some []
  | table :: rest =>
    (table.bind (Envelope.list? (Decoder.list (Decoder.record PolicyConfig.record)))).bind
      fun envelopes => (configsIn rest).map (envelopes.flatMap (·.results) ++ ·)

/-- The samples of statistics, each with its protocol, if all of them can be read. -/
def samplesIn (index : CorrelationIndex PolicyConfig) :
    List (String × Option Json) → Option (List Sample)
  | [] => some []
  | (protocol, statistics) :: rest =>
    (statistics.bind (Envelope.list? (Decoder.list (Decoder.record record)))).bind
      fun envelopes => (samplesIn index rest).map (samplesOfSource index protocol envelopes ++ ·)

/-- What is reported for tables and statistics. -/
def reported (tables : List (Option Json)) (statistics : List (String × Option Json)) :
    Option (List Sample) :=
  (configsIn tables).bind fun configs =>
    samplesIn (CorrelationIndex.build (·.uuid) configs).value statistics

/-- `configsIn` reads one table as its two parts: the configurations are the same, in the same
order. -/
theorem configsIn_append (xs ys : List Json) :
    configsIn [some (.arr (xs ++ ys))] = configsIn [some (.arr xs), some (.arr ys)] := by
  simp only [configsIn, Option.bind_some, Envelope.list?_append]
  cases Envelope.list? (Decoder.list (Decoder.record PolicyConfig.record)) (.arr xs) <;>
    cases Envelope.list? (Decoder.list (Decoder.record PolicyConfig.record)) (.arr ys) <;> simp

/-- `fetchConfigs` comes to the configurations in the `tables` that the device answers. -/
theorem yields_fetchConfigs {endpoints : List Endpoint} {tables : List (Option Json)}
    (h : List.Forall₂ device.Answers endpoints tables) :
    Collection.Yields device (fetchConfigs endpoints) (configsIn tables) := by
  induction h with
  | nil => exact Collection.yields_pure []
  | cons hfirst _ ih => exact (Collection.yields_fetch _ hfirst).bind fun envelopes => ih.map _

/-- `fetchSamples` comes to the samples of the `statistics` that the device answers. -/
theorem yields_fetchSamples (index : CorrelationIndex PolicyConfig) {sources : List Source}
    {statistics : List (Option Json)}
    (h : List.Forall₂ (fun source => device.Answers source.endpoint) sources statistics) :
    Collection.Yields device (fetchSamples index sources)
      (samplesIn index ((sources.map (·.protocol)).zip statistics)) := by
  induction h with
  | nil => exact Collection.yields_pure []
  | cons hfirst _ ih => exact (Collection.yields_fetch _ hfirst).bind fun envelopes => ih.map _

/-- Either way, statistics of the first protocol come before those of the second. -/
theorem map_protocol_sources (policy : EndpointPolicy) :
    (sources policy).map (·.protocol) = ["ipv4", "ipv6"] := by
  rcases policy with ⟨_ | _⟩ <;> rfl

/-- What is `reported` depends on the values of the answers alone. -/
theorem yields_collect {ctx : ScrapeContext} (tables statistics : List (Option Json))
    (htables : List.Forall₂ device.Answers (configEndpoints ctx.policy) tables)
    (hstatistics : List.Forall₂ (fun source => device.Answers source.endpoint)
      (sources ctx.policy) statistics) :
    Collection.Yields device (routine.collect ctx)
      (reported tables (["ipv4", "ipv6"].zip statistics)) := by
  refine (yields_fetchConfigs htables).bind fun configs => ?_
  rw [← map_protocol_sources ctx.policy]
  exact (Collection.yields_ofLogged _).bind fun index => yields_fetchSamples index hstatistics

/-- A device that keeps the policies of both protocols in one table; a question about statistics may
fail. -/
structure HasOneTable (device : Device σ) (policies : List Json) (ipv4 ipv6 : Option Json) :
    Prop where
  table : device.Answers ⟨"cmdb/firewall/policy", "vdom=*"⟩ (some (.arr policies))
  ipv4 : device.Answers ⟨"monitor/firewall/policy/select", "vdom=*&ip_version=ipv4"⟩ ipv4
  ipv6 : device.Answers ⟨"monitor/firewall/policy/select", "vdom=*&ip_version=ipv6"⟩ ipv6

/-- A device that keeps the policies of each protocol in a table of its own. -/
structure HasTwoTables (device : Device σ) (policies policies6 : List Json)
    (ipv4 ipv6 : Option Json) : Prop where
  table : device.Answers ⟨"cmdb/firewall/policy", "vdom=*"⟩ (some (.arr policies))
  table6 : device.Answers ⟨"cmdb/firewall/policy6", "vdom=*"⟩ (some (.arr policies6))
  ipv4 : device.Answers ⟨"monitor/firewall/policy/select", "vdom=*"⟩ ipv4
  ipv6 : device.Answers ⟨"monitor/firewall/policy6/select", "vdom=*"⟩ ipv6

variable {policies policies6 : List Json} {ipv4 ipv6 : Option Json} {ctx : ScrapeContext}

/-- A device with one table is reported by it, if the firmware says so. -/
theorem HasOneTable.yields (h : HasOneTable device policies ipv4 ipv6)
    (hctx : ctx.policy.combinedPolicies = true) :
    Collection.Yields device (routine.collect ctx)
      (reported [some (.arr policies)] [("ipv4", ipv4), ("ipv6", ipv6)]) := by
  refine yields_collect [some (.arr policies)] [ipv4, ipv6] ?_ ?_
  · rw [configEndpoints, if_pos hctx]
    exact .cons h.table .nil
  · rw [sources, if_pos hctx]
    exact .cons h.ipv4 (.cons h.ipv6 .nil)

/-- A device with two tables is reported by both, the first one first. -/
theorem HasTwoTables.yields (h : HasTwoTables device policies policies6 ipv4 ipv6)
    (hctx : ctx.policy.combinedPolicies = false) :
    Collection.Yields device (routine.collect ctx)
      (reported [some (.arr policies), some (.arr policies6)]
        [("ipv4", ipv4), ("ipv6", ipv6)]) := by
  have hsplit : ¬ctx.policy.combinedPolicies = true := Bool.eq_false_iff.1 hctx
  refine yields_collect [some (.arr policies), some (.arr policies6)] [ipv4, ipv6] ?_ ?_
  · rw [configEndpoints, if_neg hsplit]
    exact .cons h.table (.cons h.table6 .nil)
  · rw [sources, if_neg hsplit]
    exact .cons h.ipv4 (.cons h.ipv6 .nil)

end PolicyTraffic

namespace Scrape

open PolicyTraffic

/-- A device with one table and new firmware is reported like one with two tables and older or
unknown firmware, if the one table lists `policies` and then `policies6` and the statistics are the
same: either both collect the same samples in the same order, or both fail. -/
theorem policies_reported_alike {device₁ : Device σ} {device₂ : Device τ}
    {policies policies6 : List Json} {ipv4 ipv6 : Option Json} {options₁ options₂ : ProbeOptions}
    {s₁ : σ} {s₂ : τ}
    (hone : HasOneTable device₁ (policies ++ policies6) ipv4 ipv6)
    (htwo : HasTwoTables device₂ policies policies6 ipv4 ipv6)
    (hallowed₁ : options₁.routines.allows "firewall_policies" = true)
    (hallowed₂ : options₂.routines.allows "firewall_policies" = true)
    (hnew : ∃ v ∈ ((scrape options₁).run device₁ s₁).value.firmware, ⟨6, 4⟩ ≤ v)
    (hold : ∀ v ∈ ((scrape options₂).run device₂ s₂).value.firmware, v < ⟨6, 4⟩) :
    ∃ part,
      ((scrape options₁).run device₁ s₁).value.partsNamed "firewall_policies" = [part] ∧
      ((scrape options₂).run device₂ s₂).value.partsNamed "firewall_policies" = [part] ∧
      (part.label = "collected" ∨ part.label = "failed" ∧ part.samples = []) := by
  rw [firmware_scrape] at hnew hold
  have hmem : PolicyTraffic.routine ∈ routineTable := by simp [routineTable]
  have hyields₁ := hone.yields ((Firmware.meets_iff _ _).2 hnew)
  have hyields₂ := htwo.yields ((Firmware.meets_eq_false_iff _ _).2 hold)
  have hpart₁ := partsNamed_of_yields device₁ hmem hallowed₁ rfl hyields₁
  have hpart₂ := partsNamed_of_yields device₂ hmem hallowed₂ rfl hyields₂
  -- The one table is read in two parts, and from there on nothing depends on the firmware.
  have hreported : reported [some (.arr (policies ++ policies6))] [("ipv4", ipv4), ("ipv6", ipv6)] =
      reported [some (.arr policies), some (.arr policies6)] [("ipv4", ipv4), ("ipv6", ipv6)] := by
    rw [reported, configsIn_append, reported]
  rw [hreported] at hpart₁
  refine ⟨_, hpart₁, hpart₂, ?_⟩
  cases reported [some (.arr policies), some (.arr policies6)] [("ipv4", ipv4), ("ipv6", ipv6)] with
  | none => exact .inr ⟨rfl, rfl⟩
  | some samples => exact .inl rfl

/-- The answers of a table by endpoint; every other question times out. -/
def answersAt (table : List (Endpoint × Json)) : Endpoint → Answer := fun e =>
  match table.lookup e with
  | some v => .ok v
  | none => .error (.timeout e.path)

/-- A policy of each protocol, in one table with version 7.0 and in two with version 6.2. -/
theorem policies_reported_alike_new_old :
    let entry (fields : List (String × Json)) : Json :=
      .obj [("results", .arr [.obj fields]), ("vdom", .str "root")]
    let web := entry [("uuid", .str "u4"), ("name", .str "web")]
    let dns := entry [("uuid", .str "u6"), ("name", .str "dns")]
    let traffic4 := Json.arr [entry [("policyid", .int 1), ("uuid", .str "u4")]]
    let traffic6 := Json.arr [entry [("policyid", .int 2), ("uuid", .str "u6")]]
    let status (version : String) : Endpoint × Json :=
      (⟨SystemStatus.path, ""⟩, .obj [("results", .obj []), ("version", .str version)])
    let new := answersAt [status "v7.0.1",
      (⟨"cmdb/firewall/policy", "vdom=*"⟩, .arr [web, dns]),
      (⟨"monitor/firewall/policy/select", "vdom=*&ip_version=ipv4"⟩, traffic4),
      (⟨"monitor/firewall/policy/select", "vdom=*&ip_version=ipv6"⟩, traffic6)]
    let old := answersAt [status "v6.2.9",
      (⟨"cmdb/firewall/policy", "vdom=*"⟩, .arr [web]),
      (⟨"cmdb/firewall/policy6", "vdom=*"⟩, .arr [dns]),
      (⟨"monitor/firewall/policy/select", "vdom=*"⟩, traffic4),
      (⟨"monitor/firewall/policy6/select", "vdom=*"⟩, traffic6)]
    ∃ part, (reportOf new {}).partsNamed "firewall_policies" = [part] ∧
      (reportOf old {}).partsNamed "firewall_policies" = [part] ∧ part.label = "collected" ∧
      part.samples.map (·.label? "name") =
        List.replicate 6 (some "web") ++ List.replicate 6 (some "dns") := by
  intro entry web dns traffic4 traffic6 status new old
  have hone : HasOneTable (.ofFunction new) ([web] ++ [dns]) (some traffic4) (some traffic6) :=
    ⟨fun _ => rfl, fun _ => rfl, fun _ => rfl⟩
  have htwo : HasTwoTables (.ofFunction old) [web] [dns] (some traffic4) (some traffic6) :=
    ⟨fun _ => rfl, fun _ => rfl, fun _ => rfl, fun _ => rfl⟩
  have hnew : (reportOf new {}).firmware = some ⟨7, 0⟩ := by decide +kernel
  have hold : (reportOf old {}).firmware = some ⟨6, 2⟩ := by decide +kernel
  have hpart : ((reportOf new {}).partsNamed "firewall_policies").map
      (fun p => (p.label, p.samples.map (·.label? "name"))) =
        [("collected", List.replicate 6 (some "web") ++ List.replicate 6 (some "dns"))] := by
    decide +kernel
  -- The report of the new device is computed; that of the old one is the same by the theorem.
  obtain ⟨part, hpart₁, hpart₂, -⟩ := policies_reported_alike hone htwo rfl rfl
    ⟨_, hnew, by rw [Firmware.le_iff]; decide⟩
    (fun v hv => by
      obtain rfl := Option.some.inj (hold.symm.trans hv)
      rw [← not_le, Firmware.le_iff]
      decide)
  rw [reportOf, hpart₁] at hpart
  have hpair := List.singleton_inj.1 hpart
  exact ⟨part, hpart₁, hpart₂, congrArg Prod.fst hpair, congrArg Prod.snd hpair⟩

end Scrape
end FirewallProbe
