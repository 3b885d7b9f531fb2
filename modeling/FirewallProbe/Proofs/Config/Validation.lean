import FirewallProbe.Config.Document
import FirewallProbe.Proofs.Config.Rules
import FirewallProbe.Proofs.Dict

/-!
# Accepted configurations

Each rule is about one part of a configuration: where the exporter answers, the limits of a scrape,
or one target.  The rules are checked one after the other up to the first that is broken, so a
configuration is accepted if and only if all of its parts are, in whatever order the targets come.

## Key results

- `ScrapeSettings.validate_eq_ok_iff` / `Target.isUsable_iff`: what the rules about a part ask
- `Config.validate_eq_ok_iff`: a configuration is accepted part by part
- `Config.settle_eq_ok_iff`: what becomes of a document that was read
- `Config.isUsable_of_find?`: every target of an accepted configuration can be probed
- `Config.validateIn_eq_ok_iff` / `message_of_validateIn`: what the rules accept and how they refuse
- `Config.accepted_iff_usable`: the rules accept the usable configurations
-/

namespace FirewallProbe

/-! ## The parts of a configuration -/

/-- `validate` accepts limits that are positive, if a request takes no longer than the scrape. -/
theorem ScrapeSettings.validate_eq_ok_iff (s : ScrapeSettings) :
    s.validate = .ok () ↔
      0 < s.timeout ∧ 0 < s.requestTimeout ∧ s.requestTimeout ≤ s.timeout ∧ 0 < s.maxBgpPaths := by
  rw [s.checks_validate.eq_ok_iff]
  simp [rules]

namespace Target

/-- A target that can be probed: its token is not blank and its patterns can be read. -/
structure IsUsable (t : Target) : Prop where
  token : Text.trimChars t.token.toList ≠ []
  patterns : ∃ F, RoutineFilter.parse t.routines.included t.routines.excluded = .ok F

/-- `probeOptions` takes the page size of the configuration and the patterns of the target, which it
reads. -/
theorem probeOptions_eq_ok_iff (t : Target) (scrape : ScrapeSettings) (options : ProbeOptions) :
    t.probeOptions scrape = .ok options ↔
      options.maxBgpPaths = scrape.maxBgpPaths ∧
        RoutineFilter.parse t.routines.included t.routines.excluded = .ok options.routines := by
  obtain ⟨maxBgpPaths, F⟩ := options
  rw [probeOptions]
  cases hparse : RoutineFilter.parse t.routines.included t.routines.excluded with
  | error e => simp
  | ok G => simp [eq_comm]

/-- A target is usable if all `Target.rules` hold, whatever its `url`. -/
theorem isUsable_iff (t : Target) (url : String) : t.IsUsable ↔ ∀ r ∈ t.rules url, r.holds := by
  -- That the patterns are readable does not depend on the limits.
  have hpatterns : (∃ F, RoutineFilter.parse t.routines.included t.routines.excluded = .ok F) ↔
      ∀ r ∈ (t.routines.included ++ t.routines.excluded).map patternRule, r.holds := by
    rw [← (t.checks_probeOptions {}).exists_eq_ok_iff]
    simp only [probeOptions_eq_ok_iff]
    exact ⟨fun ⟨F, hF⟩ => ⟨⟨_, F⟩, rfl, hF⟩, fun ⟨_, _, hF⟩ => ⟨_, hF⟩⟩
  rw [rules, List.forall_mem_cons, ← hpatterns]
  constructor
  · rintro ⟨htoken, hF⟩
    rw [ne_eq, Text.trimChars_eq_nil_iff] at htoken
    exact ⟨by simpa using htoken, hF⟩
  · rintro ⟨⟨ch, hmem, hch⟩, hF⟩
    refine ⟨fun hnil => ?_, hF⟩
    simp [(Text.trimChars_eq_nil_iff _).1 hnil ch hmem] at hch

end Target

namespace Config

/-! ## The whole configuration -/

/-- The rules about `targets` say that each of them is usable. -/
theorem forall_targetRules_iff (targets : List (String × Target)) :
    (∀ r ∈ targetRules targets, r.holds) ↔ ∀ e ∈ targets, e.2.IsUsable := by
  rw [targetRules, List.forall_mem_flatMap]
  exact forall₂_congr fun e _ => (e.2.isUsable_iff e.1).symm

/-- `validateTargets` accepts usable targets. -/
theorem validateTargets_eq_ok_iff (scrape : ScrapeSettings) (targets : List (String × Target)) :
    validateTargets scrape targets = .ok () ↔ ∀ e ∈ targets, e.2.IsUsable :=
  (checks_validateTargets scrape targets).eq_ok_iff.trans (forall_targetRules_iff targets)

/-- `validate` accepts a configuration if and only if it accepts each of its parts. -/
theorem validate_eq_ok_iff (c : Config) :
    c.validate = .ok () ↔ c.server.validate = .ok () ∧ c.scrape.validate = .ok () ∧
      ∀ e ∈ c.targets.entries, e.2.IsUsable := by
  simp only [validate, Except.bind_eq_ok_iff, validateTargets_eq_ok_iff]
  exact ⟨fun ⟨_, hserver, _, hscrape, htargets⟩ => ⟨hserver, hscrape, htargets⟩,
    fun ⟨hserver, hscrape, htargets⟩ => ⟨(), hserver, (), hscrape, htargets⟩⟩

/-- `settle` gives back the settings with the targets in the order that `rekey` makes of them, if
`validate` accepts that. -/
theorem settle_eq_ok_iff (c : Config) (targets : List (String × Target)) (c' : Config) :
    c.settle targets = .ok c' ↔
      c' = { c with targets := rekey targets } ∧ c'.validate = .ok () := by
  simp only [settle, Except.bind_eq_ok_iff]
  constructor
  · rintro ⟨_, hvalid, hreturn⟩
    obtain rfl := Except.ok.inj hreturn
    refine ⟨rfl, ?_⟩
    cases hchecked : ({ c with targets := rekey targets } : Config).validate with
    | error fault => simp [hchecked, Except.mapError] at hvalid
    | ok u => rfl
  · rintro ⟨rfl, hvalid⟩
    exact ⟨(), by rw [hvalid]; rfl, rfl⟩

/-- What `parse` read passed `validate`. -/
theorem validate_of_parse {text : String} {c : Config} (h : parse text = .ok c) :
    c.validate = .ok () := by
  obtain ⟨_, -, hsettle⟩ := Except.bind_eq_ok_iff.1 h
  exact ((settle_eq_ok_iff _ _ _).1 hsettle).2

/-- Every target of a configuration that `validate` accepts is usable. -/
theorem isUsable_of_find? {c : Config} (h : c.validate = .ok ()) {key : String} {t : Target}
    (hfind : c.targets.find? key = some t) : t.IsUsable :=
  ((validate_eq_ok_iff c).1 h).2.2 _ ((c.targets.mem_entries_iff key t).2 hfind)

/-! ## Usable configurations -/

/-- A configuration that can be used: its address to listen on can be read, its two paths start with
a slash and differ from each other and from that of the health check, a request may take some time
but no more than the scrape, a page of paths is not empty, and every target has a token that is not
blank and patterns that can be read. -/
structure IsUsable (c : Config) : Prop where
  listen : ∃ address, SocketAddress.parse? c.server.listen = some address
  probePath : c.server.probePath.toList.head? = some '/'
  metricsPath : c.server.metricsPath.toList.head? = some '/'
  paths_ne : c.server.probePath ≠ c.server.metricsPath
  probePath_ne : c.server.probePath ≠ "/health"
  metricsPath_ne : c.server.metricsPath ≠ "/health"
  requestTimeout_pos : 0 < c.scrape.requestTimeout
  requestTimeout_le : c.scrape.requestTimeout ≤ c.scrape.timeout
  maxBgpPaths_pos : 0 < c.scrape.maxBgpPaths
  token : ∀ url t, c.targets.find? url = some t →
    ∃ ch ∈ t.token.toList, Text.isBlank ch = false
  included : ∀ url t, c.targets.find? url = some t →
    ∀ pattern ∈ t.routines.included, ∃ glob, Glob.parse pattern = .ok glob
  excluded : ∀ url t, c.targets.find? url = some t →
    ∀ pattern ∈ t.routines.excluded, ∃ glob, Glob.parse pattern = .ok glob

/-- All `Config.rules` hold of a usable configuration and of no other, in whatever `order` its
targets come. -/
theorem forall_rules_iff {c : Config} {order : List (String × Target)}
    (h : order.Perm c.targets.entries) : (∀ r ∈ c.rules order, r.holds) ↔ c.IsUsable := by
  have htargets : (∀ r ∈ targetRules order, r.holds) ↔
      ∀ url t, c.targets.find? url = some t → ∀ r ∈ t.rules url, r.holds := by
    simp only [targetRules, List.forall_mem_flatMap, Prod.forall, h.mem_iff, Dict.mem_entries_iff]
  -- The rules, one by one, are the fields of `IsUsable`; that the timeout is positive follows.
  rw [rules, List.forall_mem_append, List.forall_mem_append, htargets]
  simp only [ServerSettings.rules, ServerSettings.listenRule, ServerSettings.pathRule,
    ScrapeSettings.rules, Target.rules, Target.patternRule, List.forall_mem_cons,
    List.forall_mem_map, List.forall_mem_append]
  constructor
  · rintro ⟨⟨hlisten, hprobe, hmetrics, hne, ⟨hprobe_ne, hmetrics_ne⟩, -⟩,
      ⟨-, hrequest, hle, hpage, -⟩, htargets⟩
    exact ⟨hlisten, hprobe, hmetrics, hne, hprobe_ne, hmetrics_ne, hrequest, hle, hpage,
      fun url t ht => (htargets url t ht).1, fun url t ht => (htargets url t ht).2.1,
      fun url t ht => (htargets url t ht).2.2⟩
  · intro hc
    exact ⟨⟨hc.listen, hc.probePath, hc.metricsPath, hc.paths_ne,
        ⟨hc.probePath_ne, hc.metricsPath_ne⟩, List.forall_mem_nil _⟩,
      ⟨Nat.lt_of_lt_of_le hc.requestTimeout_pos hc.requestTimeout_le, hc.requestTimeout_pos,
        hc.requestTimeout_le, hc.maxBgpPaths_pos, List.forall_mem_nil _⟩,
      fun url t ht => ⟨hc.token url t ht, hc.included url t ht, hc.excluded url t ht⟩⟩

/-- `validateIn` accepts a configuration if and only if it is usable, in whatever `order` its
targets are checked. -/
theorem validateIn_eq_ok_iff {c : Config} {order : List (String × Target)}
    (h : order.Perm c.targets.entries) : c.validateIn order = .ok () ↔ c.IsUsable :=
  (c.checks_validateIn order).eq_ok_iff.trans (forall_rules_iff h)

/-- The text of a `fault` is that of the first rule about the whole that is broken, or else that of
the first rule about a target that is, for the first such target in `order`. -/
theorem message_of_validateIn {c : Config} {order : List (String × Target)} {fault : ConfigFault}
    (h : c.validateIn order = .error fault) :
    (∃ r, IsFirstBroken (c.server.rules ++ c.scrape.rules) r ∧ fault.message = r.message) ∨
      (∀ r ∈ c.server.rules ++ c.scrape.rules, r.holds) ∧
        ∃ front url t back r, order = front ++ (url, t) :: back ∧ (∀ e ∈ front, e.2.IsUsable) ∧
          IsFirstBroken (t.rules url) r ∧ fault.message = r.message := by
  obtain ⟨r, hfirst, hmessage⟩ := (c.checks_validateIn order).exists_isFirstBroken h
  rw [rules, ← List.append_assoc] at hfirst
  obtain hwhole | ⟨hall, htargets⟩ := hfirst.of_append
  · exact .inl ⟨r, hwhole, hmessage⟩
  · obtain ⟨front, ⟨url, t⟩, back, hsplit, hfront, hbroken⟩ := htargets.of_flatMap
    exact .inr ⟨hall, front, url, t, back, r, hsplit,
      fun e he => (e.2.isUsable_iff e.1).2 (hfront e he), hbroken, hmessage⟩

/-- Every target of a configuration that `validate` accepts has options to be probed with. -/
theorem exists_probeOptions_of_find? {c : Config} (h : c.validate = .ok ()) {url : String}
    {t : Target} (hfind : c.targets.find? url = some t) :
    ∃ options, t.probeOptions c.scrape = .ok options := by
  obtain ⟨-, F, hF⟩ := isUsable_of_find? h hfind
  exact ⟨⟨c.scrape.maxBgpPaths, F⟩, (t.probeOptions_eq_ok_iff _ _).2 ⟨rfl, hF⟩⟩

/-- `validateIn` accepts the usable configurations and no others.  The `order` of the targets, which
are kept by the one spelling of their URL, decides neither that nor anything else but which of
several targets that cannot be used is named: the text of a `fault` is that of the first broken
rule, those about the whole before those about a target.  So all targets of a document that `parse`
accepts can be probed. -/
theorem accepted_iff_usable :
    (∀ (c : Config) (order : List (String × Target)), order.Perm c.targets.entries →
      (c.validateIn order = .ok () ↔ c.IsUsable) ∧
      ∀ fault, c.validateIn order = .error fault →
        (∃ r, IsFirstBroken (c.server.rules ++ c.scrape.rules) r ∧ fault.message = r.message) ∨
        (∀ r ∈ c.server.rules ++ c.scrape.rules, r.holds) ∧
          ∃ front url t back r, order = front ++ (url, t) :: back ∧ (∀ e ∈ front, e.2.IsUsable) ∧
            IsFirstBroken (t.rules url) r ∧ fault.message = r.message) ∧
    (∀ (c : Config) (order : List (String × Target)),
      (∃ c', c.settle order = .ok c') ↔ ({ c with targets := rekey order } : Config).IsUsable) ∧
    (∀ (c c' : Config) (order : List (String × Target)), c.settle order = .ok c' →
      ∀ url t, c'.targets.find? url = some t → ∃ options, t.probeOptions c'.scrape = .ok options) ∧
    ∀ text c, parse text = .ok c →
      ∀ url t, c.targets.find? url = some t → ∃ options, t.probeOptions c.scrape = .ok options := by
  refine ⟨fun c order hperm => ⟨validateIn_eq_ok_iff hperm, fun fault => message_of_validateIn⟩,
    fun c order => ?_, fun c c' order hsettle url t => ?_, fun text c hparse url t => ?_⟩
  · rw [← validateIn_eq_ok_iff (List.Perm.refl _), validateIn_entries]
    simp only [settle_eq_ok_iff]
    exact ⟨fun ⟨_, hc, hvalid⟩ => hc ▸ hvalid, fun hvalid => ⟨_, rfl, hvalid⟩⟩
  · exact exists_probeOptions_of_find? ((settle_eq_ok_iff _ _ _).1 hsettle).2
  · exact exists_probeOptions_of_find? (validate_of_parse hparse)

/-- Settings with two targets that cannot be used: one has a blank token, the other a pattern with a
class that does not end. -/
def twoUnusable : Config where
  targets := Dict.ofList [("https://fw01", { token := " " }),
    ("https://fw02", { token := "b", routines := { included := ["[bgp"] } })]

/-- A document with one target, which can be used. -/
def oneTarget : String := "\x7b targets: \x7b 'fw03/': \x7b token: 'c' \x7d \x7d \x7d"

/-- Either of the targets in `twoUnusable` is named, as their order has it. -/
theorem accepted_iff_usable_either_named :
    twoUnusable.targets.entries.reverse.Perm twoUnusable.targets.entries ∧
      ¬twoUnusable.IsUsable ∧
      twoUnusable.validateIn twoUnusable.targets.entries =
        .error (.emptyToken "https://fw01") ∧
      twoUnusable.validateIn twoUnusable.targets.entries.reverse =
        .error (.badPattern ⟨0, .openClass⟩) ∧
      ∃ c t options, parse oneTarget = .ok c ∧
        c.targets.find? "https://fw03" = some t ∧ t.probeOptions c.scrape = .ok options := by
  have hperm : twoUnusable.targets.entries.reverse.Perm twoUnusable.targets.entries :=
    List.reverse_perm _
  have hreverse : twoUnusable.validateIn twoUnusable.targets.entries.reverse =
      .error (.badPattern ⟨0, .openClass⟩) := by decide +kernel
  have hread : (parse oneTarget).toOption.bind (fun c => c.targets.find? "https://fw03") =
      some { token := "c" } := by decide +kernel
  obtain ⟨c, hc, hfind⟩ := Option.bind_eq_some_iff.1 hread
  rw [Except.toOption_eq_some_iff] at hc
  obtain ⟨hrules, -, -, hparse⟩ := accepted_iff_usable
  obtain ⟨options, hoptions⟩ := hparse _ c hc _ _ hfind
  refine ⟨hperm, fun husable => ?_, by decide +kernel, hreverse, c, _, options, hc, hfind, hoptions⟩
  have hok := (hrules twoUnusable _ hperm).1.2 husable
  rw [hreverse] at hok
  cases hok

end Config
end FirewallProbe
