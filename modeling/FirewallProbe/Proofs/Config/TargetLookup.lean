import FirewallProbe.Proofs.Config.TargetOrder
import FirewallProbe.Proofs.Config.TargetSpelling
import FirewallProbe.Proofs.Schema.Fields

/-!
# Looking up targets

A host may be written with blanks around it, with slashes behind it, and with or without a scheme.
All spellings with the same scheme are kept as one URL, and where no two targets of a document have
the same URL, every one of them is found under each spelling of its own and under no other text.

## Key results

- `TargetUrl.IsHost.normalize_eq` / `normalize_scheme`: the spellings of a host
- `Config.targets_eq_ofList` / `ofText_eq_ok_iff`: the targets that are read from a document
- `Config.rekey_ofList_of_perm`: URLs that differ lose no target and need no order
- `Config.target?_rekey_eq_some_iff`: under which texts a target is found
- `TargetUrl.found_under_every_spelling`: the targets of a configuration that was accepted
-/

namespace FirewallProbe
namespace TargetUrl

open Text (isBlank StartsIn EndsIn)

/-- `core` keeps neither the blanks around a `text` nor the `slashes` behind it. -/
theorem core_surrounded {text : List Char} (hne : text ≠ []) (hfirst : ¬StartsIn isBlank text)
    (hlast : ¬EndsIn isBlank text) (hplain : ¬EndsIn isSlash text)
    {before slashes after : List Char} (hbefore : ∀ c ∈ before, isBlank c = true)
    (hslashes : ∀ c ∈ slashes, c = '/') (hafter : ∀ c ∈ after, isBlank c = true) :
    core (before ++ (text ++ (slashes ++ after))) = text := by
  obtain ⟨front, c, rfl⟩ : ∃ front c, text = front ++ [c] :=
    (List.eq_nil_or_concat' text).resolve_left hne
  have hend : (front ++ [c]).getLast? = some c := List.getLast?_concat
  have hblank : isBlank c = false := by
    by_contra h
    exact hlast ⟨c, hend, by simpa using h⟩
  have hslash : c ≠ '/' := fun h => hplain ⟨c, hend, by simp [h, isSlash]⟩
  have hparts : core (before ++ front ++ c :: (slashes ++ after)) =
      (before ++ front).dropWhile isBlank ++ [c] :=
    core_of_parts hblank hslash hslashes hafter
  -- What is dropped of the blanks in front is all of them and nothing of the text.
  rw [List.dropWhile_append_of_pos hbefore] at hparts
  have hfront : front.dropWhile isBlank = front := by
    cases front with
    | nil => rfl
    | cons d rest =>
      refine List.dropWhile_cons_of_neg fun hd => ?_
      exact hfirst ⟨d, rfl, hd⟩
  rw [hfront] at hparts
  simpa using hparts

/-- A host: some text without blanks around it, without a slash at its end and without a scheme. -/
structure IsHost (host : String) : Prop where
  nonempty : host ≠ ""
  first : ¬StartsIn isBlank host.toList
  last : ¬EndsIn isBlank host.toList
  plain : ¬EndsIn isSlash host.toList
  noPlainScheme : ¬"http://".toList <+: host.toList
  noSecureScheme : ¬"https://".toList <+: host.toList

instance (host : String) : Decidable (IsHost host) :=
  decidable_of_iff
    (host ≠ "" ∧ ¬StartsIn isBlank host.toList ∧ ¬EndsIn isBlank host.toList ∧
      ¬EndsIn isSlash host.toList ∧ ¬"http://".toList <+: host.toList ∧
      ¬"https://".toList <+: host.toList)
    ⟨fun ⟨hne, hfirst, hlast, hplain, hhttp, hhttps⟩ => ⟨hne, hfirst, hlast, hplain, hhttp, hhttps⟩,
      fun h => ⟨h.nonempty, h.first, h.last, h.plain, h.noPlainScheme, h.noSecureScheme⟩⟩

/-- Some slashes. -/
def slashes (n : ℕ) : String := String.ofList (List.replicate n '/')

/-- `normalize` keeps of a `text` with blanks around it and slashes behind it the `text` alone, and
adds the secure scheme if it has none. -/
theorem normalize_surrounded {text : String} (hne : text ≠ "")
    (hfirst : ¬StartsIn isBlank text.toList) (hlast : ¬EndsIn isBlank text.toList)
    (hplain : ¬EndsIn isSlash text.toList)
    {before after : String} (hbefore : ∀ c ∈ before.toList, isBlank c = true)
    (hafter : ∀ c ∈ after.toList, isBlank c = true) (n : ℕ) :
    normalize (before ++ text ++ slashes n ++ after) =
      if hasScheme text.toList then text else "https://" ++ text := by
  have hcore : core (before ++ text ++ slashes n ++ after).toList = text.toList := by
    have hslashes : ∀ c ∈ (slashes n).toList, c = '/' := fun c hc => by
      rw [slashes, String.toList_ofList] at hc
      exact List.eq_of_mem_replicate hc
    have htext : text.toList ≠ [] := fun h => hne (String.toList_eq_nil_iff.1 h)
    have hcore := core_surrounded htext hfirst hlast hplain hbefore hslashes hafter
    simpa only [String.toList_append, List.append_assoc] using hcore
  rw [← String.toList_inj, toList_normalize, normalizeChars, hcore]
  split
  · rfl
  · rw [String.toList_append]
    rfl

/-- `hasScheme` holds of no host. -/
theorem IsHost.hasScheme_eq_false {host : String} (h : IsHost host) :
    hasScheme host.toList = false := by
  rw [hasScheme, Bool.or_eq_false_iff, ← Bool.not_eq_true, ← Bool.not_eq_true,
    List.isPrefixOf_iff_prefix, List.isPrefixOf_iff_prefix]
  exact ⟨h.noPlainScheme, h.noSecureScheme⟩

/-- What stands behind a scheme is of no account to `hasScheme`. -/
theorem hasScheme_append {cs : List Char} (h : hasScheme cs = true) (ds : List Char) :
    hasScheme (cs ++ ds) = true := by
  rw [hasScheme, Bool.or_eq_true, List.isPrefixOf_iff_prefix, List.isPrefixOf_iff_prefix] at h ⊢
  exact h.imp (·.trans (List.prefix_append _ _)) (·.trans (List.prefix_append _ _))

namespace IsHost

variable {host before after : String} (h : IsHost host)
  (hbefore : ∀ c ∈ before.toList, isBlank c = true) (hafter : ∀ c ∈ after.toList, isBlank c = true)

include h hbefore hafter

/-- `normalize` gives a host without a scheme the secure one. -/
theorem normalize_eq (n : ℕ) :
    normalize (before ++ host ++ slashes n ++ after) = "https://" ++ host := by
  rw [normalize_surrounded h.nonempty h.first h.last h.plain hbefore hafter,
    h.hasScheme_eq_false, if_neg Bool.false_ne_true]

/-- `normalize` keeps the `scheme` that is written in front of a host. -/
theorem normalize_scheme {scheme : String} (hscheme : hasScheme scheme.toList = true) (n : ℕ) :
    normalize (before ++ (scheme ++ host) ++ slashes n ++ after) = scheme ++ host := by
  have hwhole : hasScheme (scheme ++ host).toList = true := by
    rw [String.toList_append]
    exact hasScheme_append hscheme _
  have hhost : host.toList ≠ [] := fun hnil => h.nonempty (String.toList_eq_nil_iff.1 hnil)
  -- The scheme stands in front, so the end is that of the host.
  have hend : (scheme ++ host).toList.getLast? = host.toList.getLast? := by
    rw [String.toList_append, List.getLast?_append_of_ne_nil _ hhost]
  have hlast : ¬EndsIn isBlank (scheme ++ host).toList := by
    rw [EndsIn, hend]
    exact h.last
  have hplain : ¬EndsIn isSlash (scheme ++ host).toList := by
    rw [EndsIn, hend]
    exact h.plain
  have hne : scheme ++ host ≠ "" := fun hempty => by
    rw [hempty] at hwhole
    exact absurd hwhole (by decide)
  rw [normalize_surrounded hne (not_startsIn_isBlank_of_hasScheme hwhole) hlast hplain hbefore
    hafter, if_pos hwhole]

end IsHost
end TargetUrl

/-! ## The targets of a document -/

namespace Record

variable {α γ : Type}

/-- The entries of a document from which a record is read; the items of a list stand for the fields
in order. -/
def entriesOfJson5 (r : Record Json5 α) : Json5 → List (String × Json5)
  | .object members => (Json5.Decoder.namedMembers members).1
  | .list items => r.names.zip items
  | _ => []

/-- `Json5.Decoder.record` reads a field from the entry with its `name`, or from the item in its
place. -/
theorem IsShownBy.json5 {r : Record Json5 α} {name : String} {value : Json5 → γ} {view : α → γ}
    (h : r.IsShownBy name value view) (hnames : r.names.Nodup) {v : Json5} {a : α}
    (hread : Json5.Decoder.record r v = .ok a) :
    view a = ((valueAt? name (r.entriesOfJson5 v)).map value).getD (view r.blank) := by
  cases v with
  | object members =>
    obtain ⟨⟨seen, b⟩, hentries, hend⟩ := Except.bind_eq_ok_iff.1 hread
    dsimp only at hend
    split at hend
    next => cases hend
    next =>
      rw [← eq_of_complete hend]
      exact h.readEntries hentries
  | list items => exact h.ofItems hnames hread
  | _ =>
    obtain ⟨_, -, hwrong⟩ := Except.bind_eq_ok_iff.1 hread
    cases hwrong

end Record

namespace Config

/-- The members of a document that describe targets, in the order in which they are written. -/
def targetMembers (document : Json5) : List (List TextUnit × Json5) :=
  match valueAt? "targets" (record.entriesOfJson5 document) with
  | some (.object members) => members
  | _ => []

/-- The targets of a document under the URLs as they are written, in this order. -/
def writtenTargets (document : Json5) : Except Mismatch (List (String × Target)) :=
  (targetMembers document).mapM fun (url, target) => do
    return (← Json5.decodeText url, ← Json5.Decoder.record Target.record target)

/-- `Config.record` reads the targets from the entry of that name. -/
theorem targets_isShownBy : record.IsShownBy "targets"
    (Json5.Decoder.dict (Json5.Decoder.record Target.record)) fun c => .ok c.targets :=
  Record.isShownBy_of_optional (by decide) rfl (fun v x a hx => by rw [hx])
    (by simp [record])

/-- `ofText` parses the text and then reads the record. -/
theorem ofText_eq_ok_iff (text : String) (c : Config) :
    ofText text = .ok c ↔ ∃ document, Json5.parse text = some document ∧
      Json5.Decoder.record record document = .ok c := by
  rw [ofText]
  cases Json5.parse text with
  | none => simp
  | some document => simp [Except.mapError_eq_ok_iff]

/-- A configuration that was read holds the `writtenTargets` of the document; of several with one
URL `Dict.ofList` keeps the last. -/
theorem targets_eq_ofList {document : Json5} {c : Config}
    (h : Json5.Decoder.record record document = .ok c) :
    ∃ written, writtenTargets document = .ok written ∧ c.targets = Dict.ofList written := by
  -- Without an entry there are no targets; an entry must be an object.
  have hshown := targets_isShownBy.json5 (by decide) h
  rw [writtenTargets, targetMembers]
  cases hvalue : valueAt? "targets" (record.entriesOfJson5 document) with
  | none =>
    rw [hvalue] at hshown
    exact ⟨[], rfl, Except.ok.inj hshown⟩
  | some v =>
    rw [hvalue] at hshown
    cases v with
    | object members =>
      obtain ⟨written, hwritten, heq⟩ := Except.bind_eq_ok_iff.1 hshown.symm
      exact ⟨written, hwritten, (Except.ok.inj heq).symm⟩
    | _ =>
      obtain ⟨_, -, hwrong⟩ := Except.bind_eq_ok_iff.1 hshown.symm
      cases hwrong

/-! ## Look-ups -/

section

variable {written : List (String × Target)}
  (h : (written.map fun e => TargetUrl.normalize e.1).Nodup)

include h

/-- Where the spellings differ, `normalized` has no key twice. -/
theorem nodup_normalized : ((normalized written).map (·.1)).Nodup := by
  rwa [normalized, List.map_map]

/-- Targets whose URLs have different spellings are kept alike by `rekey` in any `order`, also in
that of a dictionary. -/
theorem rekey_ofList_of_perm {order : List (String × Target)}
    (hperm : order.Perm (Dict.ofList written).entries) : rekey order = rekey written :=
  -- Different spellings come from different texts, so the dictionary holds all that is written.
  have hkeys : (written.map (·.1)).Nodup := by
    have hurls : written.map (fun e => TargetUrl.normalize e.1) =
        (written.map (·.1)).map TargetUrl.normalize := by rw [List.map_map]; rfl
    exact (hurls ▸ h).of_map
  rekey_eq_of_perm (.of_nodup (nodup_normalized h)) (hperm.trans (Dict.entries_ofList_perm hkeys))

/-- `target?` finds a target under `url` if and only if `normalize` makes the same of `url` and of
the URL that was written. -/
theorem target?_rekey_eq_some_iff (c : Config) (url : String) (t : Target) (key : String) :
    ({ c with targets := rekey written } : Config).target? url = some (key, t) ↔
      key = TargetUrl.normalize url ∧ ∃ e ∈ written,
        TargetUrl.normalize e.1 = TargetUrl.normalize url ∧ e.2 = t := by
  have hfind : (rekey written).find? (TargetUrl.normalize url) = some t ↔
      (TargetUrl.normalize url, t) ∈ normalized written :=
    Dict.find?_ofList_eq_some_iff (.of_nodup (nodup_normalized h))
  rw [normalized, List.mem_map] at hfind
  rw [target?, Option.map_eq_some_iff]
  constructor
  · rintro ⟨found, hfound, heq⟩
    obtain ⟨rfl, rfl⟩ := Prod.mk.inj heq
    obtain ⟨e, he, hentry⟩ := hfind.1 hfound
    obtain ⟨hurl, htarget⟩ := Prod.mk.inj hentry
    exact ⟨rfl, e, he, hurl, htarget⟩
  · rintro ⟨rfl, e, he, hurl, rfl⟩
    exact ⟨e.2, hfind.2 ⟨e, he, by rw [hurl]⟩, rfl⟩

end

end Config

namespace TargetUrl

open Text (isBlank)
open Config (writtenTargets rekey)

/-- `normalize` drops blanks around a host and slashes behind it, and adds the secure scheme where
there is none.  Where the URLs of a document have different spellings, `target?` finds every target
that is written under each text with the spelling of its URL and no target under any other text;
none is lost, and the order in which `settle` takes the targets is of no account. -/
theorem found_under_every_spelling :
    (∀ (host before after : String) (n : ℕ), IsHost host →
      (∀ c ∈ before.toList, isBlank c = true) → (∀ c ∈ after.toList, isBlank c = true) →
        normalize (before ++ host ++ slashes n ++ after) = "https://" ++ host ∧
        normalize (before ++ ("https://" ++ host) ++ slashes n ++ after) = "https://" ++ host ∧
        normalize (before ++ ("http://" ++ host) ++ slashes n ++ after) = "http://" ++ host) ∧
    ∀ (text : String) (c : Config), Config.parse text = .ok c →
      ∃ document written, Json5.parse text = some document ∧
        writtenTargets document = .ok written ∧
        ((written.map fun e => normalize e.1).Nodup →
          (∀ e ∈ written, ∀ url, normalize url = normalize e.1 →
            c.target? url = some (normalize e.1, e.2)) ∧
          (∀ url, (∀ e ∈ written, normalize url ≠ normalize e.1) → c.target? url = none) ∧
          c.targets.size = written.length ∧
          ∀ read order, Config.ofText text = .ok read → order.Perm read.targets.entries →
            read.settle order = .ok c) := by
  refine ⟨fun host before after n hhost hbefore hafter =>
    ⟨hhost.normalize_eq hbefore hafter n, hhost.normalize_scheme hbefore hafter (by decide) n,
      hhost.normalize_scheme hbefore hafter (by decide) n⟩, fun text c hparse => ?_⟩
  obtain ⟨read, hread, hsettle⟩ := Except.bind_eq_ok_iff.1 hparse
  obtain ⟨document, hdocument, hrecord⟩ := (Config.ofText_eq_ok_iff _ _).1 hread
  obtain ⟨written, hwritten, htargets⟩ := Config.targets_eq_ofList hrecord
  refine ⟨document, written, hdocument, hwritten, fun hnodup => ?_⟩
  -- What is kept is said by the written list alone, whatever order the dictionary came in.
  have hkept : ∀ order, order.Perm read.targets.entries → rekey order = rekey written :=
    fun order hperm => Config.rekey_ofList_of_perm hnodup (htargets ▸ hperm)
  obtain ⟨hc, -⟩ := (Config.settle_eq_ok_iff _ _ _).1 hsettle
  rw [hkept _ (List.Perm.refl _)] at hc
  refine ⟨fun e he url hurl => ?_, fun url hnone => ?_, ?_, fun read' order hread' hperm => ?_⟩
  · rw [hc, Config.target?_rekey_eq_some_iff hnodup]
    exact ⟨hurl.symm, e, he, hurl.symm, rfl⟩
  · refine Option.eq_none_iff_forall_ne_some.2 fun found hfound => ?_
    rw [hc, Config.target?_rekey_eq_some_iff hnodup] at hfound
    obtain ⟨-, e, he, hurl, -⟩ := hfound
    exact hnone e he hurl.symm
  · rw [hc]
    exact (Config.size_rekey_eq_length_iff written).2 hnodup
  · obtain rfl := Except.ok.inj (hread.symm.trans hread')
    rw [← hsettle, Config.settle, Config.settle, hkept order hperm, hkept _ (List.Perm.refl _)]

/-- A document that lists one host twice, with different schemes. -/
def twoSchemes : String :=
  "\x7b targets: \x7b ' fw01/ ': \x7b token: 'a' \x7d, 'http://fw01': \x7btoken: 'b'\x7d \x7d \x7d"

/-- The targets of that document as they are written. -/
def twoSchemesTargets : List (String × Target) :=
  [(" fw01/ ", { token := "a" }), ("http://fw01", { token := "b" })]

/-- Both targets of `twoSchemes` are found under other spellings than those that are written. -/
theorem found_under_every_spelling_two_schemes :
    IsHost "fw01" ∧ normalize ("\t" ++ "fw01" ++ slashes 2 ++ " ") = "https://" ++ "fw01" ∧
      (twoSchemesTargets.map fun e => normalize e.1).Nodup ∧
      ∃ c, Config.parse twoSchemes = .ok c ∧
        c.target? "https://fw01" = some ("https://fw01", { token := "a" }) ∧
        c.target? "http://fw01//" = some ("http://fw01", { token := "b" }) ∧
        c.target? "fw02" = none := by
  have hhost : IsHost "fw01" := by decide +kernel
  have htab : ∀ c ∈ "\t".toList, isBlank c = true := by
    intro c hc
    obtain rfl : c = '\t' := by simpa using hc
    decide
  have hspace : ∀ c ∈ " ".toList, isBlank c = true := by
    intro c hc
    obtain rfl : c = ' ' := by simpa using hc
    decide
  have hnodup : (twoSchemesTargets.map fun e => normalize e.1).Nodup := by decide +kernel
  have hwritten : ((Json5.parse twoSchemes).bind fun document =>
      (writtenTargets document).toOption) = some twoSchemesTargets := by
    decide +kernel
  have haccepted : (Config.parse twoSchemes).toOption.isSome = true := by decide +kernel
  obtain ⟨c, hc⟩ := Option.isSome_iff_exists.1 haccepted
  rw [Except.toOption_eq_some_iff] at hc
  obtain ⟨hspellings, htargets⟩ := found_under_every_spelling
  obtain ⟨document, written, hdocument, hread, hfound⟩ := htargets twoSchemes c hc
  rw [hdocument, Option.bind_some, Except.toOption_eq_some_iff, hread] at hwritten
  obtain rfl := Except.ok.inj hwritten
  obtain ⟨hown, hnone, -⟩ := hfound hnodup
  refine ⟨hhost, (hspellings "fw01" "\t" " " 2 hhost htab hspace).1, hnodup, c, hc, ?_, ?_,
    hnone "fw02" (by decide +kernel)⟩
  · exact hown (" fw01/ ", { token := "a" }) (by decide) "https://fw01" (by decide +kernel)
  · exact hown ("http://fw01", { token := "b" }) (by decide) "http://fw01//" (by decide +kernel)

end TargetUrl
end FirewallProbe
