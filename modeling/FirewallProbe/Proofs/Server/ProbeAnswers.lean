import FirewallProbe.Proofs.Blank
import FirewallProbe.Proofs.Exposition.States
import FirewallProbe.Proofs.Probe.Deadlines
import FirewallProbe.Proofs.Scrape.CallTrace
import FirewallProbe.Server

/-!
# Answers to requests for a probe

A request for a probe names its target.  Without a target, or with one that is not configured, it is
refused, and nothing else happens.  Otherwise the target is probed with its own settings, which are
known to be usable because the configuration was accepted, and the answer shows what the scrape
collected.  The only way in which there is no answer is that the probe has no deadlines.

## Key results

- `ProbePlan.decide_of_missing` / `decide_of_unknown` / `decide_of_known`: what a target comes to
- `Server.showsProbe_probeResponse`: what an answer with samples shows
- `Server.respond_probe`: how any request for a probe is answered
-/

namespace FirewallProbe

/-! ## The plan of a probe -/

/-- Nothing is named that could be probed: there is no name, or it is blank. -/
def IsMissing (target : Option String) : Prop :=
  ∀ name ∈ target, ∀ ch ∈ name.toList, Text.isBlank ch = true

instance (target : Option String) : Decidable (IsMissing target) :=
  decidable_of_iff (target.all fun name => name.toList.all Text.isBlank) <| by
    cases target <;> simp [IsMissing]

/-- The URL that is named, however it is spelled, is one under which `c` keeps a target. -/
def Config.Knows (c : Config) (target : Option String) : Prop :=
  ∃ name ∈ target, TargetUrl.normalize name ∈ c.targets.entries.map (·.1)

namespace ProbePlan

/-- The plan follows the settings of the `target` that was named. -/
structure IsFor (plan : ProbePlan) (c : Config) (target : Option String) : Prop where
  url : ∃ name ∈ target, plan.url = TargetUrl.normalize name
  target : c.targets.find? plan.url = some plan.target
  maxBgpPaths : plan.options.maxBgpPaths = c.scrape.maxBgpPaths
  routines : RoutineFilter.parse plan.target.routines.included plan.target.routines.excluded =
    .ok plan.options.routines
  timeout : plan.timeout = .ofSeconds c.scrape.timeout
  requestTimeout : plan.requestTimeout = .ofSeconds c.scrape.requestTimeout

variable {c : Config} {target : Option String}

/-- The filter of `decide` drops blank names, and no others. -/
private theorem filter_eq_none_iff :
    target.filter (fun t => !(Text.trimChars t.toList).isEmpty) = none ↔ IsMissing target := by
  cases target with
  | none => simp [IsMissing]
  | some name => simp [IsMissing, ← Text.trimChars_eq_nil_iff]

/-- A name that is not missing passes the filter of `decide`. -/
private theorem filter_eq_some (h : ¬IsMissing target) :
    ∃ name, target = some name ∧
      target.filter (fun t => !(Text.trimChars t.toList).isEmpty) = some name := by
  obtain ⟨name, hname⟩ := Option.ne_none_iff_exists'.1 (mt filter_eq_none_iff.1 h)
  exact ⟨name, (Option.filter_eq_some_iff.1 hname).1, hname⟩

/-- `decide` refuses a request that names nothing. -/
theorem decide_of_missing (h : IsMissing target) : decide c target = .error .noTarget := by
  rw [decide, filter_eq_none_iff.2 h]

/-- `decide` refuses a name under which no target is kept. -/
theorem decide_of_unknown (h : ¬IsMissing target) (hknown : ¬c.Knows target) :
    ∃ name, decide c target = .error (.unknownTarget name) := by
  obtain ⟨name, rfl, hfilter⟩ := filter_eq_some h
  have hfind : c.targets.find? (TargetUrl.normalize name) = none := by
    by_contra hsome
    exact hknown ⟨name, rfl, (c.targets.mem_keys_iff _).2 (Option.ne_none_iff_exists'.1 hsome)⟩
  exact ⟨name, by rw [decide, hfilter]; simp [Config.target?, hfind]⟩

/-- The settings of a target can be used, so `decide` has a plan for a target that is known. -/
theorem decide_of_known (hvalid : c.validate = .ok ()) (h : ¬IsMissing target)
    (hknown : c.Knows target) : ∃ plan, decide c target = .ok plan ∧ plan.IsFor c target := by
  obtain ⟨name, rfl, hfilter⟩ := filter_eq_some h
  obtain ⟨_, hname, hkey⟩ := hknown
  obtain rfl := Option.some.inj hname
  obtain ⟨own, hfind⟩ := (c.targets.mem_keys_iff _).1 hkey
  obtain ⟨F, hpatterns⟩ := (c.isUsable_of_find? hvalid hfind).patterns
  have hoptions : own.probeOptions c.scrape = .ok ⟨c.scrape.maxBgpPaths, F⟩ :=
    (own.probeOptions_eq_ok_iff _ _).2 ⟨rfl, hpatterns⟩
  refine ⟨⟨TargetUrl.normalize name, own, ⟨c.scrape.maxBgpPaths, F⟩, c.timeout, c.requestTimeout⟩,
    ?_, ⟨name, rfl, rfl⟩, hfind, rfl, hpatterns, rfl, rfl⟩
  rw [decide, hfilter]
  simp [Config.target?, hfind, hoptions]

/-- The device of a probe: the target, asked with its own token. -/
def device {σ : Type} (plan : ProbePlan) (network : Network σ) : Device σ :=
  let client : Client := ⟨plan.url, plan.target.token, plan.requestTimeout⟩
  client.device plan.timeout network

/-- The scrape of a probe in a network. -/
def scraped {σ : Type} (plan : ProbePlan) (network : Network σ) (s : σ) :
    Dialogue.Transcript σ ScrapeReport :=
  (scrape plan.options).run (plan.device network) s

/-- `ProbePlan.run` in a network is a scrape of the target. -/
theorem run_eq {σ : Type} (plan : ProbePlan) (network : Network σ) (s : σ) :
    plan.run network s =
      (⟨.reported (plan.scraped network s).value
          (plan.timeout.minus (network.elapsed (plan.scraped network s).state)).isZero,
        network.elapsed (plan.scraped network s).state⟩, (plan.scraped network s).state) := rfl

end ProbePlan

/-- `isSuccess` holds of a report that is in order, also when it is late. -/
theorem ProbeEnd.isSuccess_reported (report : ScrapeReport) (late : Bool) :
    (ProbeEnd.reported report late).isSuccess = report.isOk := by
  cases hok : report.isOk <;> cases late <;> simp [isSuccess, outcome, hok]

namespace Server

variable {σ : Type}

/-! ## What an answer shows -/

/-- The `response` shows the probe of a target in a `network`. -/
structure ShowsProbe (response : HttpResponse) (plan : ProbePlan) (network : Network σ) (s : σ) :
    Prop where
  /-- The samples of the scrape are written as they are. -/
  text : response = {
    status := 200
    contentType := some expositionType
    body := (Exposition.render (plan.scraped network s).value.samples
      (plan.scraped network s).value.isOk (network.elapsed (plan.scraped network s).state)).value }
  /-- The routines that the target allows are run. -/
  routines : (plan.scraped network s).value.routines.map (·.name) =
    (routineTable.filter fun r => plan.options.routines.allows r.name).map (·.name)
  /-- The text says that the probe succeeded if and only if none of them failed. -/
  success : ∃ families, Exposition.readText? response.body = some families ∧
    (families.filter fun f => f.name = "probe_success").map (·.series) =
      [[⟨[], if ∀ e ∈ (plan.scraped network s).value.routines, e.label ≠ "failed" then "1"
        else "0"⟩]]

/-- `isOk` holds of a scrape if none of its routines failed. -/
private theorem isOk_scrape_iff (device : Device σ) (options : ProbeOptions) (s : σ) :
    ((scrape options).run device s).value.isOk = true ↔
      ∀ e ∈ ((scrape options).run device s).value.routines, e.label ≠ "failed" := by
  have hcomposed := ScrapeReport.isComposedOf_addTurns
    ((Scrape.resolve options).run device s).value.firmware
    (Scrape.turnsOf device routineTable options s)
  rw [← Scrape.value_scrape] at hcomposed
  rw [hcomposed.isOk, List.all_eq_true]
  refine forall₂_congr fun e he => ?_
  rw [Ne, ← hcomposed.isOk_entry e he, Bool.not_eq_false]

/-- `render` says at the end whether the probe succeeded. -/
private theorem series_probe_success {samples : List Sample} (h : Emits catalog samples)
    (success : Bool) (duration : Duration) :
    ∃ families, Exposition.readText? (Exposition.render samples success duration).value =
        some families ∧
      (families.filter fun f => f.name = "probe_success").map (·.series) =
        [[⟨[], if success then "1" else "0"⟩]] := by
  have hnamed := Exposition.isWellNamed_of_emits h
  refine ⟨_, Exposition.readText?_value_render (fun t ht => (hnamed t ht).1)
    (fun t ht => (hnamed t ht).2) success duration, ?_⟩
  -- The families of the samples have other names.
  have hsamples : (Exposition.writtenFamilies samples).filter (fun f => f.name = "probe_success") =
      [] := by
    refine List.filter_eq_nil_iff.2 fun f hf => ?_
    obtain ⟨head, hhead, rfl⟩ := List.mem_map.1 hf
    have hname : head.name ≠ "probe_success" :=
      (hnamed head (List.mem_of_mem_firstOfEach hhead)).2.1
    exact fun heq => hname (of_decide_eq_true heq)
  have hprobe : (Exposition.probeFamilies success duration).filter
      (fun f => f.name = "probe_success") =
        [Exposition.writtenGauge Exposition.probeSuccess (indicator success)] := rfl
  have hvalue : Exposition.valueText (indicator success) = if success then "1" else "0" := by
    cases success <;> decide +kernel
  rw [List.filter_append, hsamples, hprobe, ← hvalue]
  rfl

/-- `probeResponse` answers the report of a scrape with its text. -/
private theorem probeResponse_reported (report : ScrapeReport) (late : Bool) (elapsed : Duration) :
    probeResponse ⟨.reported report late, elapsed⟩ = {
      status := 200
      contentType := some expositionType
      body := (Exposition.render report.samples report.isOk elapsed).value } := by
  rw [probeResponse, ProbeRun.exposition, ProbeEnd.isSuccess_reported, ProbeEnd.samples]

/-- `probeResponse` shows the probe that `plan` ran. -/
theorem showsProbe_probeResponse (plan : ProbePlan) (network : Network σ) (s : σ) :
    ShowsProbe (probeResponse (plan.run network s).1) plan network s := by
  have htext := probeResponse_reported (plan.scraped network s).value
    (plan.timeout.minus (network.elapsed (plan.scraped network s).state)).isZero
    (network.elapsed (plan.scraped network s).state)
  rw [ProbePlan.run_eq, htext]
  refine ⟨rfl, ?_, ?_⟩
  · rw [ProbePlan.scraped]
    exact Scrape.map_name_routines_scrape _ plan.options s
  · have hemits : Emits catalog (plan.scraped network s).value.samples := by
      rw [ProbePlan.scraped]
      exact Scrape.emits_samples_run _ staysIn_routineTable plan.options s
    have hok : (plan.scraped network s).value.isOk = true ↔
        ∀ e ∈ (plan.scraped network s).value.routines, e.label ≠ "failed" := by
      rw [ProbePlan.scraped]
      exact isOk_scrape_iff _ plan.options s
    -- What the text says about the probe is what the report says about its routines.
    obtain ⟨families, hread, hseries⟩ := series_probe_success hemits
      (plan.scraped network s).value.isOk (network.elapsed (plan.scraped network s).state)
    exact ⟨families, hread, by rw [hseries, if_congr hok rfl rfl]⟩

/-! ## The decision -/

variable {c : Config} {r : HttpRequest} {target : Option String}

/-- `route` decides what a request for a probe asks for by its target alone. -/
theorem route_probe (hmethod : r.method = "GET") (hpath : r.path = c.server.probePath)
    (htarget : targetsOf r.query = target.toList) :
    route c r = match ProbePlan.decide c target with
      | .ok plan => .probe plan
      | .error e => .reply (refusal e) := by
  have hroute : isRoute c c.server.probePath = true := by simp [isRoute]
  have hprobe : routeProbe c r.query = match ProbePlan.decide c target with
      | .ok plan => .probe plan
      | .error e => .reply (refusal e) := by
    rw [routeProbe, htarget]
    cases target <;> rfl
  simp [route, hmethod, hroute, hpath, hprobe]

/-- `respond` changes nothing when it refuses, and asks no `world` to run a probe. -/
theorem respond_of_refused {e : ProbeRefusal} (h : ProbePlan.decide c target = .error e)
    (hmethod : r.method = "GET") (hpath : r.path = c.server.probePath)
    (htarget : targetsOf r.query = target.toList) (world : World σ) (t : Telemetry) (s : σ) :
    respond world c t s r = (some (refusal e), t, s) := by
  rw [respond, route_probe hmethod hpath htarget, h]
  simp [sent, hmethod]

/-- `respond` answers a request with a `plan` by what the `world` makes of it, if the probe has
deadlines. -/
theorem respond_of_planned {plan : ProbePlan} (h : ProbePlan.decide c target = .ok plan)
    (hmethod : r.method = "GET") (hpath : r.path = c.server.probePath)
    (htarget : targetsOf r.query = target.toList) (world : World σ) (t : Telemetry) (s : σ) :
    respond world c t s r =
      if (Deadlines.of? (world.now s) plan.timeout).isSome then
        let ended := world.run s plan
        (some (probeResponse ended.1), t.steps [.start, .finish ended.1], ended.2)
      else (none, t.steps [.start, .drop], s) := by
  rw [respond, route_probe hmethod hpath htarget, h]
  cases hdeadlines : Deadlines.of? (world.now s) plan.timeout <;> simp [hdeadlines, sent, hmethod]

/-- How `respond` answers a request for a probe.  It is refused with 400 exactly if its `target` is
missing, and with 401 exactly if the target is not configured; then nothing changes, whatever the
`world`.  It is answered with 200 exactly if the target is configured and the probe has deadlines,
and then the answer shows a scrape with the settings of that target.  Only without deadlines there
is no answer. -/
theorem respond_probe {text : String} (hparse : Config.parse text = .ok c)
    (hmethod : r.method = "GET") (hpath : r.path = c.server.probePath)
    (htarget : targetsOf r.query = target.toList) (world : World σ) (t : Telemetry) (s : σ) :
    let out := respond world c t s r
    let status := out.1.map (·.status)
    let timed := (Deadlines.of? (world.now s) c.timeout).isSome
    (status = some 400 ↔ IsMissing target) ∧
    (status = some 401 ↔ ¬IsMissing target ∧ ¬c.Knows target) ∧
    (status = some 200 ↔ ¬IsMissing target ∧ c.Knows target ∧ timed) ∧
    (status = none ↔ ¬IsMissing target ∧ c.Knows target ∧ ¬timed) ∧
    status ≠ some 500 ∧
    (status = some 400 ∨ status = some 401 →
      out.2 = (t, s) ∧ ∀ other : World σ, respond other c t s r = out) ∧
    (status = some 200 → ∃ plan : ProbePlan, plan.IsFor c target ∧
      ∀ network : Network σ, world.run s plan = plan.run network s →
        ∃ response, out.1 = some response ∧ ShowsProbe response plan network s) := by
  intro out status timed
  have hvalid := Config.validate_of_parse hparse
  -- The target decides: nothing to probe, nothing known about it, or a plan.
  by_cases hmissing : IsMissing target
  · have hout := fun other : World σ => respond_of_refused (ProbePlan.decide_of_missing hmissing)
      hmethod hpath htarget other t s
    have hstatus : status = some 400 := by simp only [status, out, hout]; rfl
    simp [hstatus, hmissing, out, hout]
  by_cases hknown : c.Knows target
  · obtain ⟨plan, hplan, hfor⟩ := ProbePlan.decide_of_known hvalid hmissing hknown
    -- All plans have the timeout of the configuration, so it alone decides whether there is an
    -- answer.
    have htimeout : plan.timeout = c.timeout := hfor.timeout
    have hout := respond_of_planned hplan hmethod hpath htarget world t s
    rw [htimeout] at hout
    cases htimed : (Deadlines.of? (world.now s) c.timeout).isSome with
    | false =>
      have hnone : out = (none, t.steps [.start, .drop], s) := by simpa [htimed] using hout
      simp [status, timed, htimed, hmissing, hknown, hnone]
    | true =>
      have hsome : out = (some (probeResponse (world.run s plan).1),
          t.steps [.start, .finish (world.run s plan).1], (world.run s plan).2) := by
        simpa [htimed] using hout
      have hstatus : status = some 200 := by simp only [status, hsome]; rfl
      have hshows : ∀ network : Network σ, world.run s plan = plan.run network s →
          ∃ response, out.1 = some response ∧ ShowsProbe response plan network s := by
        intro network hrun
        refine ⟨probeResponse (world.run s plan).1, by rw [hsome], ?_⟩
        rw [hrun]
        exact showsProbe_probeResponse plan network s
      refine ⟨?_, ?_, ?_, ?_, ?_, ?_, fun _ => ⟨plan, hfor, hshows⟩⟩ <;>
        simp [hstatus, hmissing, hknown, timed, htimed]
  · obtain ⟨name, hname⟩ := ProbePlan.decide_of_unknown hmissing hknown
    have hout := fun other : World σ => respond_of_refused hname hmethod hpath htarget other t s
    have hstatus : status = some 401 := by simp only [status, out, hout]; rfl
    simp [hstatus, hmissing, hknown, out, hout]

/-- The configuration of one target. -/
def oneTarget : String := "\x7b targets: \x7b fw01: \x7b token: 't' \x7d \x7d \x7d"

/-- A target that is spelled in another way is probed, another target is refused, and so is a blank
one. -/
theorem respond_probe_spelled :
    ∃ c, Config.parse oneTarget = .ok c ∧
      ∀ network : Network Unit,
        let world : World Unit := ⟨fun _ => ⟨1000, 0, by decide⟩, fun s plan => plan.run network s⟩
        let ask (query : String) := respond world c {} () ⟨"GET", "/probe", some query⟩
        (ask "target=+fw01%2F").1.map (·.status) = some 200 ∧
          (ask "target=fw02").1.map (·.status) = some 401 ∧
          (ask "target=+").1.map (·.status) = some 400 := by
  -- What the rest needs of the configuration is computed once.
  have hread :
      ((Config.parse oneTarget).toOption.map fun c =>
        (c.server.probePath, c.scrape.timeout, c.targets.entries)) =
          some ("/probe", 30, [("https://fw01", { token := "t" })]) := by
    decide +kernel
  obtain ⟨c, hparse, hread⟩ := Option.map_eq_some_iff.1 hread
  rw [Except.toOption_eq_some_iff] at hparse
  obtain ⟨hpath, htimeout, hentries⟩ := by simpa using hread
  have hknown : c.Knows (some " fw01/") := by
    rw [Config.Knows, hentries]
    decide +kernel
  have hunknown : ¬c.Knows (some "fw02") := by
    rw [Config.Knows, hentries]
    decide +kernel
  have htimed : (Deadlines.of? ⟨1000, 0, by decide⟩ c.timeout).isSome := by
    rw [Config.timeout, htimeout, Deadlines.of?_ofSeconds, if_pos (by decide)]
    rfl
  refine ⟨c, hparse, fun network => ?_⟩
  intro world ask
  -- Each answer is one case of `respond_probe`, whatever the network does.
  have hdecided := fun (query : String) (target : Option String)
      (htarget : targetsOf (some query) = target.toList) =>
    @respond_probe Unit c ⟨"GET", "/probe", some query⟩ target _ hparse rfl hpath.symm htarget
      world {} ()
  refine ⟨?_, ?_, ?_⟩
  · exact (hdecided "target=+fw01%2F" (some " fw01/") (by decide +kernel)).2.2.1.2
      ⟨by decide +kernel, hknown, htimed⟩
  · exact (hdecided "target=fw02" (some "fw02") (by decide +kernel)).2.1.2
      ⟨by decide +kernel, hunknown⟩
  · exact (hdecided "target=+" (some " ") (by decide +kernel)).1.2 (by decide +kernel)

/-- The configuration of one target, with the longest timeout that can be written. -/
def endlessTarget : String :=
  "\x7b scrape: \x7b timeout_secs: 18446744073709551615 \x7d, " ++
    "targets: \x7b fw01: \x7b token: 't' \x7d \x7d \x7d"

/-- A target that is configured, and for which there is never an answer. -/
theorem respond_probe_without_deadlines :
    ∃ c, Config.parse endlessTarget = .ok c ∧ c.Knows (some "fw01") ∧
      ∀ (world : World Unit) (t : Telemetry),
        (respond world c t () (.ofUrl "GET" "/probe?target=fw01")).1 = none := by
  have hread :
      ((Config.parse endlessTarget).toOption.map fun c =>
        (c.server.probePath, c.scrape.timeout, c.targets.entries)) =
          some ("/probe", 18446744073709551615, [("https://fw01", { token := "t" })]) := by
    decide +kernel
  obtain ⟨c, hparse, hread⟩ := Option.map_eq_some_iff.1 hread
  rw [Except.toOption_eq_some_iff] at hparse
  obtain ⟨hpath, htimeout, hentries⟩ := by simpa using hread
  have hknown : c.Knows (some "fw01") := by
    rw [Config.Knows, hentries]
    decide +kernel
  have hmissing : ¬IsMissing (some "fw01") := by decide +kernel
  refine ⟨c, hparse, hknown, fun world t => ?_⟩
  obtain ⟨plan, hplan, hfor⟩ :=
    ProbePlan.decide_of_known (Config.validate_of_parse hparse) hmissing hknown
  -- The timeout alone has 64 bits of seconds, at whatever time the probe starts.
  have hdeadlines : Deadlines.of? (world.now ()) plan.timeout = none := by
    rw [hfor.timeout, htimeout, Deadlines.of?_ofSeconds, if_neg (by omega)]
  have hrequest : HttpRequest.ofUrl "GET" "/probe?target=fw01" =
      ⟨"GET", "/probe", some "target=fw01"⟩ := by decide +kernel
  have htargets : targetsOf (some "target=fw01") = (some "fw01").toList := by decide +kernel
  rw [hrequest, respond_of_planned hplan rfl hpath.symm htargets, hdeadlines]
  rfl

end Server
end FirewallProbe
