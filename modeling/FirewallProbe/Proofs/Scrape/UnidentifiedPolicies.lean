import FirewallProbe.Proofs.Scrape.PolicyJoin

/-!
# Traffic without an identifier

Traffic finds its name by the identifier of the policy, and an identifier that is missing counts as
empty.  So it does in configurations, and traffic without an identifier is joined to the last
configuration without one, of whatever policy.  It is reported as unknown only as long as every
configuration has an identifier.

## Key results

- `PolicyTraffic.nameAmong_of_unidentified`: the name that traffic without an identifier takes
- `PolicyTraffic.uuid_eq_empty`: when a record of statistics has no identifier
- `PolicyTraffic.unidentified_traffic_named`: the name of all such traffic that is reported
-/

namespace FirewallProbe
namespace PolicyTraffic

variable {σ : Type} {configs : List PolicyConfig} {p : PolicyTraffic}

/-- The name of traffic without an identifier: that of the last of `configs` without one. -/
def unidentifiedName (configs : List PolicyConfig) : String :=
  match (configs.filter fun c => c.uuid = "").getLast? with
  | some c => c.name
  | none => "<UNKNOWN>"

/-- `nameAmong` of traffic without an identifier is `unidentifiedName`, unless it is that of the
implicit policy. -/
theorem nameAmong_of_unidentified (hnumber : p.number ≠ 0) (huuid : p.uuid.getD "" = "") :
    nameAmong configs p = unidentifiedName configs := by
  rw [nameAmong, if_neg hnumber, huuid]
  rfl

/-- Where every configuration has an identifier, `unidentifiedName` has nothing to take a name
from. -/
theorem unidentifiedName_of_identified (h : ∀ c ∈ configs, c.uuid ≠ "") :
    unidentifiedName configs = "<UNKNOWN>" := by
  have hnone : configs.filter (fun c => c.uuid = "") = [] := by
    rw [List.filter_eq_nil_iff]
    intro c hc
    simpa using h c hc
  rw [unidentifiedName, hnone]
  rfl

/-- All `joinedSamples` of a record of statistics have the name that was found for it. -/
theorem label?_name_of_mem {vdom protocol : String} {x : Sample}
    (hx : x ∈ joinedSamples configs vdom protocol p) :
    x.label? "name" = some (nameAmong configs p) := by
  obtain ⟨m, -, rfl⟩ := List.mem_map.1 hx
  rfl

/-- The identifier of a record of statistics may be absent, null or empty; it all comes to none. -/
theorem uuid_eq_empty {members : List (String × Json)}
    (hread : Decoder.record record (.obj members) = .ok p)
    (huuid : valueAt? "uuid" members ∈ [none, some .null, some (.str "")]) :
    p.uuid.getD "" = "" := by
  have htext : p.uuid.getD "" = Json.textAt "uuid" members := key_isShownBy.textAt rfl hread
  rw [htext, Json.textAt]
  simp only [List.mem_cons, List.not_mem_nil, or_false] at huuid
  rcases huuid with h | h | h <;> rw [h] <;> rfl

/-- Traffic without an identifier and of another policy than the implicit one is reported under
`unidentifiedName`, and as unknown only if there is no configuration without an identifier: all its
samples carry that name, whether the identifier is absent, null or empty in the statistics. -/
theorem unidentified_traffic_named (device : Device σ) (ctx : ScrapeContext) (s : σ)
    {found : List Sample} (h : ((routine.collect ctx).run.run device s).value = .ok found) :
    (∃ tables ipv4 ipv6,
      device.Reads configDecoder s (configEndpoints ctx.policy) tables ∧
      device.Reads statisticsDecoder (device.after s (configEndpoints ctx.policy))
        ((sources ctx.policy).map (·.endpoint)) [ipv4, ipv6] ∧
      let configs := tables.flatten.flatMap (·.results)
      found =
        (ipv4.flatMap fun e => e.results.flatMap (joinedSamples configs e.vdom "ipv4")) ++
          (ipv6.flatMap fun e => e.results.flatMap (joinedSamples configs e.vdom "ipv6")) ∧
      (∀ e ∈ ipv4 ++ ipv6, ∀ p ∈ e.results, p.number ≠ 0 → p.uuid.getD "" = "" →
        ∀ protocol, ∀ x ∈ joinedSamples configs e.vdom protocol p,
          x.label? "name" = some (unidentifiedName configs)) ∧
      ((∀ c ∈ configs, c.uuid ≠ "") → unidentifiedName configs = "<UNKNOWN>")) ∧
    ∀ members p, Decoder.record record (.obj members) = .ok p →
      valueAt? "uuid" members ∈ [none, some .null, some (.str "")] → p.uuid.getD "" = "" := by
  refine ⟨?_, fun members p hread huuid => uuid_eq_empty hread huuid⟩
  obtain ⟨tables, ipv4, ipv6, htables, hstatistics, hfound⟩ :=
    (value_collect_eq_ok_iff device ctx s found).1 h
  refine ⟨tables, ipv4, ipv6, htables, hstatistics, hfound, ?_, unidentifiedName_of_identified⟩
  intro e _ p _ hnumber huuid protocol x hx
  rw [label?_name_of_mem hx, nameAmong_of_unidentified hnumber huuid]

/-- A device with one table of policies, with traffic of the first protocol only. -/
def deviceOf (policies traffic : List Json) : Device Unit :=
  let envelope (results : List Json) (vdom : String) : Json :=
    .obj [("results", .arr results), ("vdom", .str vdom)]
  .ofFunction (Scrape.answersAt [
    (⟨"cmdb/firewall/policy", "vdom=*"⟩, .arr [envelope policies "dmz"]),
    (⟨"monitor/firewall/policy/select", "vdom=*&ip_version=ipv4"⟩, .arr [envelope traffic "root"]),
    (⟨"monitor/firewall/policy/select", "vdom=*&ip_version=ipv6"⟩, .arr [])])

/-- What is collected from a device with version 7.0. -/
def collectedFrom (device : Device Unit) : Except ProbeError (List Sample) :=
  ((routine.collect ⟨some ⟨7, 0⟩, none, {}⟩).run.run device ()).value

/-- Traffic without an identifier beside traffic with one, and a configuration with one. -/
theorem unidentified_traffic_named_unknown :
    let device := deviceOf [.obj [("name", .str "web"), ("uuid", .str "u1")]]
      [.obj [("policyid", .int 1), ("uuid", .str "u1")], .obj [("policyid", .int 2)]]
    ∃ found tables ipv4 ipv6, collectedFrom device = .ok found ∧ found.length = 12 ∧
      device.Reads configDecoder () (configEndpoints ⟨true⟩) tables ∧
      device.Reads statisticsDecoder () ((sources ⟨true⟩).map (·.endpoint)) [ipv4, ipv6] ∧
      ∀ e ∈ ipv4 ++ ipv6, ∀ p ∈ e.results, p.number ≠ 0 → p.uuid.getD "" = "" →
        ∀ protocol, ∀ x ∈ joinedSamples (tables.flatten.flatMap (·.results)) e.vdom protocol p,
          x.label? "name" = some (unidentifiedName (tables.flatten.flatMap (·.results))) := by
  intro device
  have hlength : (collectedFrom device).toOption.map List.length = some 12 := by decide +kernel
  obtain ⟨found, hfound, htwelve⟩ := Except.map_toOption_eq_some_iff.1 hlength
  obtain ⟨⟨tables, ipv4, ipv6, htables, hstatistics, -, hnames, -⟩, -⟩ :=
    unidentified_traffic_named device ⟨some ⟨7, 0⟩, none, {}⟩ () hfound
  exact ⟨found, tables, ipv4, ipv6, hfound, htwelve, htables, hstatistics, hnames⟩

/-- A configuration without an identifier gives its name to traffic of other policies, in another
virtual domain, whether their identifiers are absent, null or empty. -/
theorem unidentified_traffic_named_guest :
    let device := deviceOf [.obj [("name", .str "guest")]]
      [.obj [("policyid", .int 5)], .obj [("policyid", .int 6), ("uuid", .null)],
        .obj [("policyid", .int 7), ("uuid", .str "")]]
    ∃ found, collectedFrom device = .ok found ∧
      found.map (fun x => (x.label? "policy_id", x.label? "uuid", x.label? "name")) =
        List.replicate 6 (some "5", some "", some "guest") ++
          List.replicate 6 (some "6", some "", some "guest") ++
          List.replicate 6 (some "7", some "", some "guest") := by
  intro device
  have hlabels : (collectedFrom device).toOption.map (List.map fun x =>
      (x.label? "policy_id", x.label? "uuid", x.label? "name")) =
        some (List.replicate 6 (some "5", some "", some "guest") ++
          List.replicate 6 (some "6", some "", some "guest") ++
          List.replicate 6 (some "7", some "", some "guest")) := by decide +kernel
  obtain ⟨found, hfound, hall⟩ := Except.map_toOption_eq_some_iff.1 hlabels
  exact ⟨found, hfound, hall⟩

end PolicyTraffic
end FirewallProbe
