import FirewallProbe.Config.Basic
import FirewallProbe.Proofs.Blank
import FirewallProbe.Proofs.Except

/-!
# The rules about a configuration

A rule asks something of a configuration and has a text for the case that it is broken.  The rules
come in a list, those about each target behind those about the whole.  A computation checks a list
of rules if it succeeds when all of them hold, and otherwise fails with the text of the first one
that does not.

## Key results

- `Checks.bind` / `checks_refuse`: checks one after the other
- `ServerSettings.checks_validate` / `ScrapeSettings.checks_validate` / `Target.checks_validate`:
  the rules about a part of a configuration
- `Config.checks_validateIn`: the rules about a configuration whose targets come in some order
-/

namespace FirewallProbe

/-- What is asked of a configuration, and what is said if it is not so. -/
structure Rule where
  holds : Prop
  message : String

/-- The first rule of a list that is broken. -/
def IsFirstBroken (rules : List Rule) (r : Rule) : Prop :=
  ∃ front back, rules = front ++ r :: back ∧ (∀ s ∈ front, s.holds) ∧ ¬r.holds

/-- The computation succeeds if all `rules` hold, and fails with the text of the first one that is
broken. -/
inductive Checks {α : Type} (rules : List Rule) : Except ConfigFault α → Prop
  | ok (a : α) (all : ∀ r ∈ rules, r.holds) : Checks rules (.ok a)
  | error {fault : ConfigFault} {r : Rule} (first : IsFirstBroken rules r)
      (message : fault.message = r.message) : Checks rules (.error fault)

namespace IsFirstBroken

variable {rules others : List Rule} {r : Rule}

/-- Where a rule is the first broken one, not all hold. -/
theorem not_all (h : IsFirstBroken rules r) : ¬∀ s ∈ rules, s.holds := by
  obtain ⟨front, back, rfl, -, hbroken⟩ := h
  exact fun hall => hbroken (hall r (List.mem_append_right _ List.mem_cons_self))

/-- Rules that come later make no difference to which is the first broken one. -/
theorem append_right (h : IsFirstBroken rules r) (others : List Rule) :
    IsFirstBroken (rules ++ others) r := by
  obtain ⟨front, back, rfl, hfront, hbroken⟩ := h
  exact ⟨front, back ++ others, by simp, hfront, hbroken⟩

/-- Rules that hold make no difference to which is the first broken one. -/
theorem append_left (h : IsFirstBroken others r) (hall : ∀ s ∈ rules, s.holds) :
    IsFirstBroken (rules ++ others) r := by
  obtain ⟨front, back, rfl, hfront, hbroken⟩ := h
  exact ⟨rules ++ front, back, by simp, List.forall_mem_append.2 ⟨hall, hfront⟩, hbroken⟩

/-- The first broken rule of two lists is that of `rules`, or that of `others` if all `rules`
hold. -/
theorem of_append (h : IsFirstBroken (rules ++ others) r) :
    IsFirstBroken rules r ∨ (∀ s ∈ rules, s.holds) ∧ IsFirstBroken others r := by
  obtain ⟨front, back, hsplit, hfront, hbroken⟩ := h
  obtain ⟨middle, rfl, hothers⟩ | ⟨middle, hrules, hback⟩ := List.append_eq_append_iff.1 hsplit
  · obtain ⟨hall, hmiddle⟩ := List.forall_mem_append.1 hfront
    exact .inr ⟨hall, middle, back, hothers, hmiddle, hbroken⟩
  · cases middle with
    | nil =>
      obtain rfl : rules = front := by simpa using hrules
      exact .inr ⟨hfront, [], back, hback.symm, List.forall_mem_nil _, hbroken⟩
    | cons s middle =>
      obtain ⟨rfl, -⟩ := List.cons.inj hback
      exact .inl ⟨front, middle, hrules, hfront, hbroken⟩

/-- The first broken rule of many lists is that of the first item `i` whose list `f i` has one. -/
theorem of_flatMap {α : Type} {f : α → List Rule} {items : List α}
    (h : IsFirstBroken (items.flatMap f) r) :
    ∃ front i back, items = front ++ i :: back ∧ (∀ x ∈ front, ∀ s ∈ f x, s.holds) ∧
      IsFirstBroken (f i) r := by
  induction items with
  | nil => obtain ⟨front, back, hsplit, -⟩ := h; simp at hsplit
  | cons i rest ih =>
    rw [List.flatMap_cons] at h
    obtain hfirst | ⟨hall, hrest⟩ := h.of_append
    · exact ⟨[], i, rest, rfl, List.forall_mem_nil _, hfirst⟩
    · obtain ⟨front, j, back, rfl, hfront, hbroken⟩ := ih hrest
      exact ⟨i :: front, j, back, rfl, List.forall_mem_cons.2 ⟨hall, hfront⟩, hbroken⟩

end IsFirstBroken

namespace Checks

variable {α β : Type} {rules others : List Rule} {x : Except ConfigFault α}

/-- A computation with `Checks` succeeds if all its `rules` hold. -/
theorem exists_eq_ok_iff (h : Checks rules x) : (∃ a, x = .ok a) ↔ ∀ r ∈ rules, r.holds := by
  cases h with
  | ok a all => exact iff_of_true ⟨a, rfl⟩ all
  | error first _ => exact iff_of_false nofun first.not_all

/-- A check that returns nothing succeeds if all its `rules` hold. -/
theorem eq_ok_iff {x : Except ConfigFault Unit} (h : Checks rules x) :
    x = .ok () ↔ ∀ r ∈ rules, r.holds := by
  rw [← h.exists_eq_ok_iff]
  exact ⟨fun hx => ⟨(), hx⟩, fun ⟨_, hx⟩ => hx⟩

/-- The text of a `fault` is that of the first broken rule. -/
theorem exists_isFirstBroken (h : Checks rules x) {fault : ConfigFault} (hx : x = .error fault) :
    ∃ r, IsFirstBroken rules r ∧ fault.message = r.message := by
  cases h with
  | ok a all => cases hx
  | error first message =>
    cases hx
    exact ⟨_, first, message⟩

/-- Checks one after the other go through `rules` and then through `others`. -/
theorem bind (hx : Checks rules x) {next : α → Except ConfigFault β}
    (hnext : ∀ a, Checks others (next a)) : Checks (rules ++ others) (x >>= next) := by
  cases hx with
  | error first message => exact .error (first.append_right others) message
  | ok a all =>
    show Checks _ (next a)
    have hrest := hnext a
    generalize next a = y at hrest ⊢
    cases hrest with
    | ok b allOthers => exact .ok b (List.forall_mem_append.2 ⟨all, allOthers⟩)
    | error first message => exact .error (first.append_left all) message

/-- What `f` makes of the result does not matter. -/
theorem bind_ok (hx : Checks rules x) (f : α → β) : Checks rules (x >>= fun a => .ok (f a)) := by
  cases hx with
  | ok a all => exact .ok (f a) all
  | error first message => exact .error first message

end Checks

section

variable {α : Type} {r : Rule} {fault : ConfigFault}

/-- A success checks a rule that holds. -/
theorem checks_ok (a : α) (h : r.holds) : Checks [r] (.ok a) := .ok a (by simpa using h)

/-- A failure checks a rule that does not hold, if it has the text of the rule. -/
theorem checks_error (h : ¬r.holds) (hmessage : fault.message = r.message) :
    Checks [r] (.error fault : Except ConfigFault α) :=
  .error ⟨[], [], rfl, List.forall_mem_nil _, h⟩ hmessage

variable {p : Prop} [Decidable p] (hp : ¬p ↔ r.holds) (hmessage : fault.message = r.message)

include hp hmessage

/-- The condition `p` under which the last of some checks refuses. -/
theorem checks_refuse_last : Checks [r] (if p then throw fault else pure ()) := by
  split
  next h => exact checks_error (fun hr => hp.2 hr h) hmessage
  next h => exact checks_ok () (hp.1 h)

/-- The condition `p` under which a check refuses before what comes `next`. -/
theorem checks_refuse {rules : List Rule} {next : PUnit → Except ConfigFault α}
    (hnext : Checks rules (next ⟨⟩)) :
    Checks (r :: rules) (if p then throw fault >>= next else next ⟨⟩) := by
  have hbind := (checks_refuse_last hp hmessage).bind fun _ => hnext
  split
  next h => rwa [if_pos h] at hbind
  next h => rwa [if_neg h] at hbind

end

/-! ## The parts of a configuration -/

namespace ServerSettings

/-- The text to listen on must be an address. -/
def listenRule (s : ServerSettings) : Rule :=
  ⟨∃ address, SocketAddress.parse? s.listen = some address, s!"Invalid listen address: {s.listen}"⟩

/-- A path must start with a slash. -/
def pathRule (path : String) : Rule :=
  ⟨path.toList.head? = some '/', s!"Path must start with /: {path}"⟩

/-- The rules about where the exporter answers. -/
def rules (s : ServerSettings) : List Rule := [
  s.listenRule,
  pathRule s.probePath,
  pathRule s.metricsPath,
  ⟨s.probePath ≠ s.metricsPath, "probe_path and metrics_path must differ"⟩,
  ⟨s.probePath ≠ "/health" ∧ s.metricsPath ≠ "/health", "/health is reserved"⟩]

/-- `listenAddress` checks the one rule about the address. -/
theorem checks_listenAddress (s : ServerSettings) : Checks [s.listenRule] s.listenAddress := by
  rw [listenAddress]
  cases haddress : SocketAddress.parse? s.listen with
  | some address => exact checks_ok address ⟨address, haddress⟩
  | none => exact checks_error (fun ⟨_, h⟩ => nomatch haddress.symm.trans h) rfl

/-- `checkPath` checks the one rule about a path. -/
theorem checks_checkPath (path : String) : Checks [pathRule path] (checkPath path) := by
  rw [checkPath]
  split
  next rest hpath => exact checks_ok () (by rw [pathRule, hpath, List.head?_cons])
  next hpath =>
    refine checks_error (fun hstart => ?_) rfl
    obtain ⟨rest, hrest⟩ := List.head?_eq_some_iff.1 hstart
    exact hpath rest hrest

theorem checks_validate (s : ServerSettings) : Checks s.rules s.validate :=
  s.checks_listenAddress.bind fun _ =>
    (checks_checkPath s.probePath).bind fun _ =>
      (checks_checkPath s.metricsPath).bind fun _ =>
        checks_refuse Iff.rfl rfl (checks_refuse_last not_or rfl)

end ServerSettings

namespace ScrapeSettings

/-- The rules about limits. -/
def rules (s : ScrapeSettings) : List Rule := [
  ⟨0 < s.timeout, "timeout_secs must be > 0"⟩,
  ⟨0 < s.requestTimeout, "request_timeout_secs must be > 0"⟩,
  ⟨s.requestTimeout ≤ s.timeout, "request_timeout_secs must not exceed timeout_secs"⟩,
  ⟨0 < s.maxBgpPaths, "max_bgp_paths must be > 0"⟩]

theorem checks_validate (s : ScrapeSettings) : Checks s.rules s.validate := by
  unfold rules validate
  refine checks_refuse Nat.pos_iff_ne_zero.symm rfl ?_
  refine checks_refuse Nat.pos_iff_ne_zero.symm rfl ?_
  refine checks_refuse Nat.not_lt rfl ?_
  exact checks_refuse_last Nat.pos_iff_ne_zero.symm rfl

end ScrapeSettings

namespace Target

/-- A pattern must be readable. -/
def patternRule (pattern : String) : Rule where
  holds := ∃ glob, Glob.parse pattern = .ok glob
  message := match Glob.parse pattern with
    | .ok _ => ""
    | .error e => s!"Invalid routine pattern: {e.message}"

/-- The rules about a target: its token is not blank, and its patterns can be read, those that
include before those that exclude. -/
def rules (url : String) (t : Target) : List Rule :=
  ⟨∃ c ∈ t.token.toList, Text.isBlank c = false, s!"Target {url} has an empty token"⟩ ::
    (t.routines.included ++ t.routines.excluded).map patternRule

theorem checks_parse (pattern : String) :
    Checks [patternRule pattern] ((Glob.parse pattern).mapError .badPattern) := by
  cases hparse : Glob.parse pattern with
  | ok glob => exact checks_ok glob ⟨glob, hparse⟩
  | error e =>
    refine checks_error (fun ⟨_, h⟩ => nomatch hparse.symm.trans h) ?_
    rw [patternRule, hparse]
    rfl

/-- `Glob.parse` reads `patterns` one after the other, and the first that is not readable is the
fault. -/
theorem checks_mapM_parse (patterns : List String) :
    Checks (patterns.map patternRule) ((patterns.mapM Glob.parse).mapError .badPattern) := by
  induction patterns with
  | nil => exact .ok [] (List.forall_mem_nil _)
  | cons pattern rest ih =>
    rw [List.mapM_cons, Except.mapError_bind]
    refine (checks_parse pattern).bind fun glob => ?_
    rw [Except.mapError_bind]
    exact ih.bind_ok (glob :: ·)

/-- `probeOptions` reads the patterns that include before those that exclude. -/
theorem checks_probeOptions (t : Target) (scrape : ScrapeSettings) :
    Checks ((t.routines.included ++ t.routines.excluded).map patternRule)
      (t.probeOptions scrape) := by
  have hparse : t.probeOptions scrape =
      ((RoutineFilter.parse t.routines.included t.routines.excluded).mapError .badPattern >>=
        fun routines => .ok { maxBgpPaths := scrape.maxBgpPaths, routines }) := by
    rw [probeOptions]
    cases RoutineFilter.parse t.routines.included t.routines.excluded <;> rfl
  rw [hparse, RoutineFilter.parse, List.map_append, Except.mapError_bind]
  refine Checks.bind_ok ((checks_mapM_parse _).bind fun included => ?_) _
  rw [Except.mapError_bind]
  exact (checks_mapM_parse _).bind_ok (RoutineFilter.mk included)

theorem checks_validate (scrape : ScrapeSettings) (url : String) (t : Target) :
    Checks (t.rules url) (t.validate scrape url) := by
  have htoken : ¬(Text.trimChars t.token.toList).isEmpty = true ↔
      ∃ c ∈ t.token.toList, Text.isBlank c = false := by
    rw [List.isEmpty_iff, Text.trimChars_eq_nil_iff]
    simp
  unfold rules validate
  exact checks_refuse htoken rfl ((t.checks_probeOptions scrape).bind_ok fun _ => ())

end Target

/-! ## The whole configuration -/

namespace Config

/-- The rules about targets, in the order of a list. -/
def targetRules (targets : List (String × Target)) : List Rule :=
  targets.flatMap fun e => e.2.rules e.1

/-- `validateTargets` checks one target after the other. -/
theorem checks_validateTargets (scrape : ScrapeSettings) (targets : List (String × Target)) :
    Checks (targetRules targets) (validateTargets scrape targets) := by
  induction targets with
  | nil => exact .ok () (List.forall_mem_nil _)
  | cons e rest ih => exact (e.2.checks_validate scrape e.1).bind fun _ => ih

/-- The rules about a configuration whose targets come in some order. -/
def rules (c : Config) (order : List (String × Target)) : List Rule :=
  c.server.rules ++ (c.scrape.rules ++ targetRules order)

/-- Finds the first broken rule of a configuration whose targets come in some `order`. -/
def validateIn (c : Config) (order : List (String × Target)) : Except ConfigFault Unit := do
  c.server.validate
  c.scrape.validate
  validateTargets c.scrape order

/-- `validate` checks the targets in the order of their URLs. -/
theorem validateIn_entries (c : Config) : c.validateIn c.targets.entries = c.validate := rfl

/-- `validateIn` checks the rules about the server, the limits and the targets, in this order. -/
theorem checks_validateIn (c : Config) (order : List (String × Target)) :
    Checks (c.rules order) (c.validateIn order) :=
  c.server.checks_validate.bind fun _ => c.scrape.checks_validate.bind fun _ =>
    checks_validateTargets c.scrape order

end Config
end FirewallProbe
