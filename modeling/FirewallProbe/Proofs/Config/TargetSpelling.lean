import FirewallProbe.Config.Document
import FirewallProbe.Proofs.Blank
import FirewallProbe.Proofs.Config.Validation
import FirewallProbe.Proofs.Dict

/-!
# The one spelling of a target's URL

A URL is kept without the blanks around it, then without the slashes at its end, and with a scheme.
The slashes may have stood behind more blanks, which then are at the end and stay there, and nothing
at all may be left in front of them.  In these two cases, and in no other, what is kept is itself
the spelling of another URL, under which it is not found again.

## Key results

- `TargetUrl.exists_core` / `TargetUrl.core_of_parts`: which part of a URL is kept
- `TargetUrl.normalizeChars_eq_self_iff`: the URLs that are kept as they are
- `TargetUrl.isCanonical_normalizeChars_iff`: the URLs that are kept as one of these
- `TargetUrl.kept_spelling_iff`: when what is kept can be looked up, in any configuration
-/

namespace FirewallProbe
namespace TargetUrl

open Text (isBlank StartsIn EndsIn dropTrailing trimChars)

/-! ## The part that is kept -/

/-- A slash. -/
def isSlash (c : Char) : Bool := c == '/'

/-- `core` keeps a prefix of what `trimChars` keeps. -/
theorem core_isPrefix (cs : List Char) : core cs <+: trimChars cs := Text.dropTrailing_isPrefix _

/-- `core` ends with no slash. -/
theorem not_endsIn_isSlash_core (cs : List Char) : ¬EndsIn isSlash (core cs) :=
  Text.not_endsIn_dropTrailing _

/-- `core` keeps all of a text without blanks around it and without a slash at its end. -/
theorem core_eq_self_iff (cs : List Char) :
    core cs = cs ↔ ¬StartsIn isBlank cs ∧ ¬EndsIn isBlank cs ∧ ¬EndsIn isSlash cs := by
  rw [← and_assoc, ← Text.trimChars_eq_self_iff, ← Text.dropTrailing_eq_self_iff]
  constructor
  · intro h
    -- Trimming comes first and leaves no more than what is kept in the end, which is everything.
    have hfront := core_isPrefix cs
    rw [h] at hfront
    have hsuffix := List.dropWhile_suffix (l := cs) isBlank
    have htrim : trimChars cs <+: cs.dropWhile isBlank := Text.dropTrailing_isPrefix _
    have heq : trimChars cs = cs :=
      (hfront.eq_of_length_le (htrim.length_le.trans hsuffix.length_le)).symm
    refine ⟨heq, ?_⟩
    rw [core, heq] at h
    exact h
  · rintro ⟨htrim, hslash⟩
    rw [core, htrim]
    exact hslash

/-- What `core` does not keep are blanks at both ends and slashes before those at the end. -/
theorem exists_core (cs : List Char) : ∃ before slashes after,
    (∀ c ∈ before, isBlank c = true) ∧ (∀ c ∈ slashes, c = '/') ∧ (∀ c ∈ after, isBlank c = true) ∧
      cs = before ++ (core cs ++ (slashes ++ after)) := by
  refine ⟨cs.takeWhile isBlank, (trimChars cs).rtakeWhile (· == '/'),
    (cs.dropWhile isBlank).rtakeWhile isBlank, fun c hc => List.mem_takeWhile_imp hc,
    fun c hc => by simpa using List.mem_rtakeWhile_imp hc, fun c hc => List.mem_rtakeWhile_imp hc,
    ?_⟩
  have hslashes : core cs ++ (trimChars cs).rtakeWhile (· == '/') = trimChars cs :=
    List.rdropWhile_append_rtakeWhile
  have hafter : trimChars cs ++ (cs.dropWhile isBlank).rtakeWhile isBlank = cs.dropWhile isBlank :=
    List.rdropWhile_append_rtakeWhile
  rw [← List.append_assoc (core cs), hslashes, hafter, List.takeWhile_append_dropWhile]

/-- Up to the last character `c` that is neither blank nor slash, `core` keeps all but blanks in
front, if there are `slashes` and then blanks behind it. -/
theorem core_of_parts {front slashes after : List Char} {c : Char} (hblank : isBlank c = false)
    (hslash : c ≠ '/') (hslashes : ∀ x ∈ slashes, x = '/')
    (hafter : ∀ x ∈ after, isBlank x = true) :
    core (front ++ c :: (slashes ++ after)) = front.dropWhile isBlank ++ [c] := by
  have hleading : (front ++ c :: (slashes ++ after)).dropWhile isBlank =
      front.dropWhile isBlank ++ [c] ++ slashes ++ after := by
    rw [List.dropWhile_append]
    split
    next hnone =>
      rw [List.isEmpty_iff.1 hnone, List.dropWhile_cons_of_neg (by simp [hblank])]
      simp
    next => simp
  -- Neither a slash nor the character itself is blank, so trimming takes no more than `after`.
  have hkept : ¬EndsIn isBlank (front.dropWhile isBlank ++ [c] ++ slashes) := by
    rintro ⟨x, hlast, hx⟩
    have hmem : x ∈ [c] ++ slashes := by
      rw [List.append_assoc, List.getLast?_append_of_ne_nil _ (by simp)] at hlast
      exact List.mem_of_getLast? hlast
    rcases List.mem_append.1 hmem with hmem | hmem
    · rw [List.mem_singleton.1 hmem, hblank] at hx
      cases hx
    · rw [hslashes x hmem] at hx
      exact absurd hx (by decide)
  have htrim : trimChars (front ++ c :: (slashes ++ after)) =
      front.dropWhile isBlank ++ [c] ++ slashes := by
    rw [trimChars, hleading, Text.dropTrailing_append_of_all hafter]
    exact (Text.dropTrailing_eq_self_iff _).2 hkept
  rw [core, htrim, Text.dropTrailing_append_of_all fun x hx => by simp [hslashes x hx]]
  refine (Text.dropTrailing_eq_self_iff _).2 ?_
  rintro ⟨x, hlast, hx⟩
  rw [List.getLast?_concat, Option.some.injEq] at hlast
  exact hslash (hlast.trans (by simpa using hx))

/-- Something stands before the slashes and the blanks at the end, and it ends in no blank. -/
def EndsPlainly (cs : List Char) : Prop :=
  ∃ front c slashes after, cs = front ++ c :: (slashes ++ after) ∧
    isBlank c = false ∧ c ≠ '/' ∧ (∀ x ∈ slashes, x = '/') ∧ ∀ x ∈ after, isBlank x = true

/-- `EndsPlainly` says that `core` keeps something, which ends in no blank. -/
theorem endsPlainly_iff (cs : List Char) :
    EndsPlainly cs ↔ core cs ≠ [] ∧ ¬EndsIn isBlank (core cs) := by
  constructor
  · rintro ⟨front, c, slashes, after, rfl, hblank, hslash, hslashes, hafter⟩
    rw [core_of_parts hblank hslash hslashes hafter]
    refine ⟨by simp, ?_⟩
    rintro ⟨x, hlast, hx⟩
    rw [List.getLast?_concat, Option.some.injEq] at hlast
    rw [← hlast, hblank] at hx
    cases hx
  -- The last character of `core cs` is the one in front of the slashes.
  · rintro ⟨hne, hlast⟩
    obtain ⟨before, slashes, after, -, hslashes, hafter, hcs⟩ := exists_core cs
    obtain ⟨inner, c, hcore⟩ := List.eq_nil_or_concat (core cs) |>.resolve_left hne
    rw [List.concat_eq_append] at hcore
    have hgetLast : (core cs).getLast? = some c := by rw [hcore, List.getLast?_concat]
    refine ⟨before ++ inner, c, slashes, after, ?_, ?_, ?_, hslashes, hafter⟩
    · rw [hcore] at hcs
      simpa using hcs
    · by_contra hblank
      exact hlast ⟨c, hgetLast, by simpa using hblank⟩
    · intro hslash
      exact not_endsIn_isSlash_core cs ⟨c, hgetLast, by simp [hslash, isSlash]⟩

/-! ## URLs that are kept as they are -/

/-- A URL with a scheme, without blanks around it and without a slash at its end. -/
structure IsCanonical (cs : List Char) : Prop where
  scheme : hasScheme cs = true
  first : ¬StartsIn isBlank cs
  last : ¬EndsIn isBlank cs
  plain : ¬EndsIn isSlash cs

theorem hasScheme_secureScheme_append (cs : List Char) : hasScheme (secureScheme ++ cs) = true := by
  simp [hasScheme]

/-- `normalizeChars` makes sure that there is a scheme. -/
theorem hasScheme_normalizeChars (cs : List Char) : hasScheme (normalizeChars cs) = true := by
  unfold normalizeChars
  split
  next h => exact h
  next => exact hasScheme_secureScheme_append _

/-- What has a scheme starts with no blank. -/
theorem not_startsIn_isBlank_of_hasScheme {cs : List Char} (h : hasScheme cs = true) :
    ¬StartsIn isBlank cs := by
  rw [hasScheme, Bool.or_eq_true, List.isPrefixOf_iff_prefix, List.isPrefixOf_iff_prefix] at h
  rintro ⟨c, hhead, hc⟩
  rcases h with ⟨rest, rfl⟩ | ⟨rest, rfl⟩
  all_goals
    obtain rfl : 'h' = c := by simpa [plainScheme, secureScheme] using hhead
    exact absurd hc (by decide)

/-- `core` keeps the scheme that was added in front of `cs`, or nothing but its letters if `cs` adds
nothing to be kept. -/
theorem core_secureScheme_append (cs : List Char) :
    core (secureScheme ++ cs) = "https:".toList ∨
      hasScheme (core (secureScheme ++ cs)) = true := by
  have htrim : ∃ rest, trimChars (secureScheme ++ cs) = secureScheme ++ rest := by
    have hleading : (secureScheme ++ cs).dropWhile isBlank = secureScheme ++ cs :=
      (Text.dropWhile_eq_self_iff_startsIn _).2
        (not_startsIn_isBlank_of_hasScheme (hasScheme_secureScheme_append cs))
    rw [trimChars, hleading]
    by_cases hcs : dropTrailing isBlank cs = []
    · refine ⟨[], ?_⟩
      rw [Text.dropTrailing_append_of_all ((Text.dropTrailing_eq_nil_iff _ _).1 hcs)]
      rfl
    · exact ⟨_, Text.dropTrailing_append_of_ne_nil hcs _⟩
  obtain ⟨rest, htrim⟩ := htrim
  rw [core, htrim]
  by_cases hrest : dropTrailing (· == '/') rest = []
  · left
    rw [Text.dropTrailing_append_of_all ((Text.dropTrailing_eq_nil_iff _ _).1 hrest)]
    rfl
  · right
    rw [Text.dropTrailing_append_of_ne_nil hrest]
    exact hasScheme_secureScheme_append _

/-- `normalizeChars` keeps the canonical URLs as they are, and no others. -/
theorem normalizeChars_eq_self_iff (cs : List Char) : normalizeChars cs = cs ↔ IsCanonical cs := by
  constructor
  · intro h
    have hscheme : hasScheme cs = true := h ▸ hasScheme_normalizeChars cs
    have hcore : core cs = cs := by
      unfold normalizeChars at h
      split at h
      next => exact h
      next hnone =>
        -- A scheme is added only where none is left, and then letters of one are left.
        rcases h ▸ core_secureScheme_append (core cs) with hletters | hkept
        · rw [hletters] at h
          rw [← h] at hletters
          exact absurd hletters (by decide)
        · exact absurd hkept hnone
    obtain ⟨hfirst, hlast, hplain⟩ := (core_eq_self_iff cs).1 hcore
    exact ⟨hscheme, hfirst, hlast, hplain⟩
  · rintro ⟨hscheme, hfirst, hlast, hplain⟩
    have hcore : core cs = cs := (core_eq_self_iff cs).2 ⟨hfirst, hlast, hplain⟩
    rw [normalizeChars, hcore, if_pos hscheme]

/-- `normalizeChars cs` ends with the last character of `core cs`, unless `core cs` is empty. -/
theorem getLast?_normalizeChars {cs : List Char} (h : core cs ≠ []) :
    (normalizeChars cs).getLast? = (core cs).getLast? := by
  unfold normalizeChars
  split
  next => rfl
  next => exact List.getLast?_append_of_ne_nil _ h

/-- `normalizeChars cs` is canonical if and only if `cs` ends plainly. -/
theorem isCanonical_normalizeChars_iff (cs : List Char) :
    IsCanonical (normalizeChars cs) ↔ EndsPlainly cs := by
  rw [endsPlainly_iff]
  constructor
  · rintro ⟨-, -, hlast, hplain⟩
    -- If nothing were kept, the scheme with its slashes would be left.
    have hne : core cs ≠ [] := by
      intro hnil
      rw [normalizeChars, hnil] at hplain
      exact hplain ⟨'/', rfl, rfl⟩
    rw [EndsIn, getLast?_normalizeChars hne] at hlast
    exact ⟨hne, hlast⟩
  · rintro ⟨hne, hlast⟩
    have hscheme := hasScheme_normalizeChars cs
    refine ⟨hscheme, not_startsIn_isBlank_of_hasScheme hscheme, ?_, ?_⟩
    · rwa [EndsIn, getLast?_normalizeChars hne]
    · rw [EndsIn, getLast?_normalizeChars hne]
      exact not_endsIn_isSlash_core cs

/-- `normalize` changes nothing the second time if and only if the URL ends plainly. -/
theorem normalize_normalize_iff (url : String) :
    normalize (normalize url) = normalize url ↔ EndsPlainly url.toList := by
  rw [← isCanonical_normalizeChars_iff, ← normalizeChars_eq_self_iff, ← String.toList_inj,
    toList_normalize, toList_normalize]

/-! ## Looking up what is kept -/

/-- `target?` finds a target under the `key` under which it is kept if and only if `normalize`
leaves `key` as it is. -/
theorem target?_key_iff {c : Config} {key : String} {t : Target}
    (h : c.targets.find? key = some t) :
    c.target? key = some (key, t) ↔ normalize key = key := by
  rw [Config.target?]
  constructor
  · intro hfound
    obtain ⟨_, -, heq⟩ := Option.map_eq_some_iff.1 hfound
    exact (Prod.mk.inj heq).1
  · intro hkey
    rw [hkey, h]
    rfl

/-- A target that `target?` finds is kept under `normalize url`. -/
theorem find?_of_target? {c : Config} {url key : String} {t : Target}
    (h : c.target? url = some (key, t)) : key = normalize url ∧ c.targets.find? key = some t := by
  obtain ⟨_, hfind, heq⟩ := Option.map_eq_some_iff.1 h
  obtain ⟨rfl, rfl⟩ := Prod.mk.inj heq
  exact ⟨rfl, hfind⟩

/-- The targets of a configuration that `parse` accepts are kept under `normalize` of written
URLs. -/
theorem exists_written_of_find? {text : String} {written c : Config}
    (hread : Config.ofText text = .ok written) (h : Config.parse text = .ok c) {key : String}
    {t : Target} (hfind : c.targets.find? key = some t) :
    ∃ url ∈ written.targets.entries.map (·.1), key = normalize url := by
  rw [Config.parse, hread] at h
  obtain ⟨rfl, -⟩ := (Config.settle_eq_ok_iff _ _ _).1 h
  have hmem := Dict.mem_of_mem_entries_ofList ((Dict.mem_entries_iff _ _ _).2 hfind)
  obtain ⟨e, he, heq⟩ := List.mem_map.1 hmem
  exact ⟨e.1, List.mem_map_of_mem he, (Prod.mk.inj heq).1.symm⟩

/-- `normalize url` starts with a scheme, and so with no blank.  It ends with neither a blank nor a
slash, and `normalize` leaves it as it is, if and only if something stands before the slashes and
the blanks at the end of `url` and does not end in a blank.  Under this condition, and no other, a
target that `target?` finds under `url` is found again, as the same, under the URL that is given
back; and so is a target of an accepted configuration under the URL under which it is kept. -/
theorem kept_spelling_iff (url : String) :
    let kept := normalize url
    ("http://".toList <+: kept.toList ∨ "https://".toList <+: kept.toList) ∧
    ¬StartsIn isBlank kept.toList ∧
    (¬EndsIn isBlank kept.toList ∧ ¬EndsIn isSlash kept.toList ↔ EndsPlainly url.toList) ∧
    (normalize kept = kept ↔ EndsPlainly url.toList) ∧
    (∀ (c : Config) (key : String) (t : Target), c.target? url = some (key, t) →
      (c.target? key = some (key, t) ↔ EndsPlainly url.toList)) ∧
    ∀ (text : String) (written c : Config), Config.ofText text = .ok written →
      Config.parse text = .ok c → ∀ (key : String) (t : Target), c.targets.find? key = some t →
        ∃ other ∈ written.targets.entries.map (·.1), key = normalize other ∧
          (c.target? key = some (key, t) ↔ EndsPlainly other.toList) := by
  have hscheme := hasScheme_normalizeChars url.toList
  have hcanonical := isCanonical_normalizeChars_iff url.toList
  have hfirst := not_startsIn_isBlank_of_hasScheme hscheme
  -- All but the scheme comes down to whether what is kept is canonical.
  refine ⟨?_, ?_, ?_, normalize_normalize_iff url, fun c key t h => ?_,
    fun text written c hread h key t hfind => ?_⟩
  · rw [hasScheme, Bool.or_eq_true, List.isPrefixOf_iff_prefix,
      List.isPrefixOf_iff_prefix] at hscheme
    rw [toList_normalize]
    exact hscheme
  · rwa [toList_normalize]
  · rw [toList_normalize, ← hcanonical]
    exact ⟨fun ⟨hlast, hplain⟩ => ⟨hscheme, hfirst, hlast, hplain⟩, fun h => ⟨h.last, h.plain⟩⟩
  · obtain ⟨rfl, hfind⟩ := find?_of_target? h
    rw [target?_key_iff hfind, normalize_normalize_iff]
  · obtain ⟨other, hother, rfl⟩ := exists_written_of_find? hread h hfind
    exact ⟨other, hother, rfl, by rw [target?_key_iff hfind, normalize_normalize_iff]⟩

/-- Two targets, one of them with a blank before the slash at the end of its URL. -/
def blankBeforeSlash : String :=
  "\x7b targets: \x7b 'fw01 /': \x7b token: 'a' \x7d, fw01: \x7b token: 'b' \x7d \x7d \x7d"

/-- `normalize` keeps a blank before the slash, which goes when the URL is looked up, where the
other target is found; and where nothing stands before the slashes, it keeps the scheme with its
own. -/
theorem normalize_blank_before_slash :
    normalize "fw01 /" = "https://fw01 " ∧ normalize "https://fw01 " = "https://fw01" ∧
      normalize "/" = "https://" ∧ normalize "https://" = "https://https:" ∧
      ∃ c, Config.parse blankBeforeSlash = .ok c ∧
        (c.targets.find? "https://fw01 ").map (·.token) = some "a" ∧
        (c.target? "https://fw01 ").map (fun found => (found.1, found.2.token)) =
          some ("https://fw01", "b") := by
  refine ⟨by decide +kernel, by decide +kernel, by decide +kernel, by decide +kernel, ?_⟩
  have hfound : (Config.parse blankBeforeSlash).toOption.map (fun c =>
      ((c.targets.find? "https://fw01 ").map (·.token),
        (c.target? "https://fw01 ").map fun found => (found.1, found.2.token))) =
      some (some "a", some ("https://fw01", "b")) := by decide +kernel
  obtain ⟨c, hparse, heq⟩ := Except.map_toOption_eq_some_iff.1 hfound
  obtain ⟨hkept, hother⟩ := Prod.mk.inj heq
  exact ⟨c, hparse, hkept, hother⟩

end TargetUrl
end FirewallProbe
