import FirewallProbe.Proofs.Config.Validation

/-!
# The order of targets

Targets come out of a document in no particular order, and are then kept by the one spelling of
their URL.  Of targets whose URLs are spellings of each other the last one stays, so the order
decides which.  It decides nothing if and only if such targets are equal in every setting, or the
document is refused in any order.

## Key results

- `Config.target?_rekey`: the last of the targets with a URL is the one that is found
- `Config.consistent_of_agree` / `Config.settle_eq_of_perm`: what it means that no order differs
- `Config.settle_order_iff`: when the order of the targets does not matter, and when none is lost
-/

namespace FirewallProbe
namespace Config

/-- Two outcomes that cannot be told apart: both refuse, or `target?` finds the same in both. -/
def Agree : Except ConfigError Config → Except ConfigError Config → Prop
  | .ok c, .ok c' => ∀ url, c.target? url = c'.target? url
  | .error _, .error _ => True
  | _, _ => False

/-- Targets by the one spelling of their URL. -/
def normalized (targets : List (String × Target)) : List (String × Target) :=
  targets.map fun e => (TargetUrl.normalize e.1, e.2)

/-- `rekey` is the dictionary of `normalized`, in which the last of several entries stays. -/
theorem rekey_eq_ofList (targets : List (String × Target)) :
    rekey targets = Dict.ofList (normalized targets) := rfl

/-- Of the targets with a URL, however it is spelled, `target?` finds the last. -/
theorem target?_rekey (c : Config) (targets : List (String × Target)) (url : String) :
    ({ c with targets := rekey targets } : Config).target? url =
      (valueAt? (TargetUrl.normalize url) (normalized targets).reverse).map
        fun target => (TargetUrl.normalize url, target) := by
  rw [target?, rekey_eq_ofList, Dict.find?_ofList]

/-- `target?` finds an entry `e` with which a list ends under its URL. -/
theorem target?_rekey_concat (c : Config) (targets : List (String × Target))
    (e : String × Target) :
    ({ c with targets := rekey (targets ++ [e]) } : Config).target? e.1 =
      some (TargetUrl.normalize e.1, e.2) := by
  rw [target?_rekey, normalized, List.map_append, List.reverse_append]
  simp [valueAt?]

/-- Where `settle` accepts an order in which `e` comes last, `target?` finds `e`. -/
theorem target?_of_settle_concat {c c' : Config} {targets : List (String × Target)}
    {e : String × Target} (h : c.settle (targets ++ [e]) = .ok c') :
    c'.target? e.1 = some (TargetUrl.normalize e.1, e.2) := by
  obtain ⟨rfl, -⟩ := (settle_eq_ok_iff _ _ _).1 h
  exact target?_rekey_concat c targets e

/-- Targets that are `Consistent` under their one spelling are kept alike by `rekey` in any
order. -/
theorem rekey_eq_of_perm {targets others : List (String × Target)}
    (h : Consistent (normalized targets)) (hperm : others.Perm targets) :
    rekey others = rekey targets :=
  Dict.ofList_eq_of_perm h (hperm.map _)

/-- `rekey` keeps as many targets as there are URLs among them. -/
theorem size_rekey (targets : List (String × Target)) :
    (rekey targets).size = (targets.map fun e => TargetUrl.normalize e.1).dedup.length := by
  rw [rekey_eq_ofList, Dict.size_ofList, normalized, List.map_map]
  rfl

/-- `rekey` keeps all targets if no two have one URL. -/
theorem size_rekey_eq_length_iff (targets : List (String × Target)) :
    (rekey targets).size = targets.length ↔
      (targets.map fun e => TargetUrl.normalize e.1).Nodup := by
  rw [size_rekey, ← List.dedup_eq_self]
  constructor
  · intro h
    exact (List.dedup_sublist _).eq_of_length (h.trans (List.length_map _).symm)
  · intro h
    rw [h, List.length_map]

/-- `target?` finds the same under all spellings of one URL. -/
theorem target?_eq_of_normalize_eq (c : Config) {url url' : String}
    (h : TargetUrl.normalize url = TargetUrl.normalize url') : c.target? url = c.target? url' := by
  rw [target?, target?, h]

theorem agree_refl (x : Except ConfigError Config) : Agree x x := by
  cases x with
  | error _ => trivial
  | ok _ => exact fun _ => rfl

/-- Two refusals agree, whatever they say. -/
theorem agree_of_errors {x y : Except ConfigError Config} (hx : ∃ e, x = .error e)
    (hy : ∃ e, y = .error e) : Agree x y := by
  obtain ⟨e, rfl⟩ := hx
  obtain ⟨e', rfl⟩ := hy
  trivial

/-- What is accepted agrees only with what is accepted. -/
theorem Agree.exists_ok {y : Except ConfigError Config} {c : Config} (h : Agree (.ok c) y) :
    ∃ c', y = .ok c' ∧ ∀ url, c.target? url = c'.target? url := by
  cases y with
  | error _ => exact h.elim
  | ok c' => exact ⟨c', rfl, h⟩

/-- If `settle` agrees with `accepted` in every order, `target?` finds every target there under its
URL.  The order in which the target comes last shows it. -/
theorem target?_eq_of_agree {c accepted : Config}
    (h : ∀ targets, targets.Perm c.targets.entries → Agree (.ok accepted) (c.settle targets))
    {e : String × Target} (he : e ∈ c.targets.entries) :
    accepted.target? e.1 = some (TargetUrl.normalize e.1, e.2) := by
  -- The order in which `e` comes last keeps it, whatever else has its URL.
  have hperm : (c.targets.entries.erase e ++ [e]).Perm c.targets.entries :=
    (List.perm_append_singleton _ _).trans (List.perm_cons_erase he).symm
  obtain ⟨c', hsettle, hfound⟩ := (h _ hperm).exists_ok
  rw [hfound, target?_of_settle_concat hsettle]

/-- If `settle` agrees with `accepted` in every order, targets with one URL are equal. -/
theorem consistent_of_agree {c accepted : Config}
    (h : ∀ targets, targets.Perm c.targets.entries → Agree (.ok accepted) (c.settle targets)) :
    Consistent (normalized c.targets.entries) := by
  intro e he e' he' hurl
  obtain ⟨f, hf, rfl⟩ := List.mem_map.1 he
  obtain ⟨f', hf', rfl⟩ := List.mem_map.1 he'
  have hsame : accepted.target? f.1 = accepted.target? f'.1 :=
    target?_eq_of_normalize_eq accepted hurl
  rw [target?_eq_of_agree h hf, target?_eq_of_agree h hf'] at hsame
  exact congrArg Prod.snd (Option.some.inj hsame)

/-- If targets with one URL are equal, `settle` comes to the same in every order. -/
theorem settle_eq_of_perm {c : Config} (h : Consistent (normalized c.targets.entries))
    {targets : List (String × Target)} (hperm : targets.Perm c.targets.entries) :
    c.settle targets = c.settle c.targets.entries := by
  rw [settle, settle, rekey_eq_of_perm h hperm]

/-- The order in which `settle` takes the targets does not matter if and only if no order is
accepted or targets with one URL are equal.  Whatever the order, none is lost if and only if no two
have one URL. -/
theorem settle_order_iff (c : Config) :
    ((∀ targets others, targets.Perm c.targets.entries → others.Perm c.targets.entries →
        Agree (c.settle targets) (c.settle others)) ↔
      (∀ targets, targets.Perm c.targets.entries → ∃ e, c.settle targets = .error e) ∨
        Consistent (normalized c.targets.entries)) ∧
    ∀ targets c', targets.Perm c.targets.entries → c.settle targets = .ok c' →
      (c'.targets.size = c.targets.size ↔
        (c.targets.entries.map fun e => TargetUrl.normalize e.1).Nodup) := by
  refine ⟨⟨fun hagree => ?_, ?_⟩, ?_⟩
  · by_cases hrefused :
        ∀ targets, targets.Perm c.targets.entries → ∃ e, c.settle targets = .error e
    · exact .inl hrefused
    · push Not at hrefused
      obtain ⟨order, horder, hnot⟩ := hrefused
      cases hsettle : c.settle order with
      | error e => exact absurd hsettle (hnot e)
      | ok accepted =>
        exact .inr (consistent_of_agree fun targets hperm =>
          hsettle ▸ hagree order targets horder hperm)
  · rintro (hrefused | hconsistent) targets others htargets hothers
    · exact agree_of_errors (hrefused _ htargets) (hrefused _ hothers)
    · rw [settle_eq_of_perm hconsistent htargets, settle_eq_of_perm hconsistent hothers]
      exact agree_refl _
  · intro targets c' hperm hsettle
    obtain ⟨rfl, -⟩ := (settle_eq_ok_iff _ _ _).1 hsettle
    -- The list has the same URLs in every order.
    have hurls := hperm.map fun e => TargetUrl.normalize e.1
    rw [← hurls.nodup_iff, ← size_rekey_eq_length_iff, hperm.length_eq]
    rfl

/-- A document in which one URL has two spellings and two tokens. -/
def twoSpellings : String :=
  "\x7b targets: \x7b fw01: \x7b token: 'a' \x7d, 'fw01/': \x7b token: 'b' \x7d \x7d \x7d"

/-- Which of the two tokens in `twoSpellings` a probe presents is up to the order of the targets. -/
theorem settle_two_spellings :
    ∃ c, ofText twoSpellings = .ok c ∧
      ∃ order c₁ c₂, order.Perm c.targets.entries ∧
        c.settle c.targets.entries = .ok c₁ ∧ c.settle order = .ok c₂ ∧
        (c₁.target? "fw01").map (·.2.token) = some "b" ∧
        (c₂.target? "fw01").map (·.2.token) = some "a" := by
  -- Both orders are computed at once.
  have htokens :
      ((ofText twoSpellings).toOption.map fun c =>
        ((c.settle c.targets.entries).toOption.map fun c₁ => (c₁.target? "fw01").map (·.2.token),
          (c.settle c.targets.entries.reverse).toOption.map
            fun c₂ => (c₂.target? "fw01").map (·.2.token))) =
        some (some (some "b"), some (some "a")) := by
    decide +kernel
  obtain ⟨c, hread, htokens⟩ := Option.map_eq_some_iff.1 htokens
  obtain ⟨hfirst, hsecond⟩ := Prod.mk.inj htokens
  obtain ⟨c₁, hsettle₁, htoken₁⟩ := Option.map_eq_some_iff.1 hfirst
  obtain ⟨c₂, hsettle₂, htoken₂⟩ := Option.map_eq_some_iff.1 hsecond
  rw [Except.toOption_eq_some_iff] at hread hsettle₁ hsettle₂
  exact ⟨c, hread, c.targets.entries.reverse, c₁, c₂, List.reverse_perm _, hsettle₁, hsettle₂,
    htoken₁, htoken₂⟩

end Config
end FirewallProbe
