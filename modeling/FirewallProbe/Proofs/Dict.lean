import Mathlib.Data.List.Dedup
import Mathlib.Data.List.Forall2
import Mathlib.Data.List.Induction
import FirewallProbe.Dict

/-!
# Dictionaries and lists of entries

A dictionary is determined by its look-ups.  One that is made of a list of entries holds for each
key the last entry with it, so the order of the list matters only between entries with one key.

## Key results

- `Dict.mem_entries_iff`: entries are what look-ups find
- `Dict.ext_find?`: equal look-ups make equal dictionaries
- `Dict.find?_ofList` / `Dict.size_ofList`: what is left of a list of entries
- `Dict.ofList_eq_of_perm`: entries that do not contradict each other may come in any order
- `Dict.rel_ofList`: entries with related values make related dictionaries
- `Dict.takeAll_eq`: taking entries out one by one splits a dictionary by its keys
-/

namespace FirewallProbe

variable {α : Type u}

/-! ## Look-ups in lists -/

/-- What `valueAt?` finds at a key is an entry with that key. -/
theorem mem_of_valueAt?_eq_some {key : String} {value : α} {entries : List (String × α)}
    (h : valueAt? key entries = some value) : (key, value) ∈ entries := by
  induction entries with
  | nil => cases h
  | cons e rest ih =>
    obtain ⟨k, v⟩ := e
    unfold valueAt? at h
    split at h
    next hkey =>
      obtain rfl := hkey
      obtain rfl := Option.some.inj h
      exact List.mem_cons_self
    next => exact List.mem_cons_of_mem _ (ih h)

/-- `valueAt?` finds some value at the key of every entry, though not always that of the entry. -/
theorem valueAt?_isSome_of_mem {key : String} {value : α} {entries : List (String × α)}
    (h : (key, value) ∈ entries) : ∃ found, valueAt? key entries = some found := by
  induction entries with
  | nil => cases h
  | cons e rest ih =>
    obtain ⟨k, v⟩ := e
    by_cases hkey : k = key
    · exact ⟨v, if_pos hkey⟩
    · have hne : (key, value) ≠ (k, v) := fun heq => hkey (congrArg Prod.fst heq).symm
      obtain ⟨found, hfound⟩ := ih ((List.mem_cons.1 h).resolve_left hne)
      exact ⟨found, (if_neg hkey).trans hfound⟩

/-- `valueAt? key` finds the same among the entries whose keys satisfy `p`, if `key` does. -/
theorem valueAt?_filter {p : String → Bool} {key : String} (h : p key = true)
    (entries : List (String × α)) :
    valueAt? key (entries.filter fun e => p e.1) = valueAt? key entries := by
  induction entries with
  | nil => rfl
  | cons e rest ih =>
    obtain ⟨k, v⟩ := e
    rw [List.filter_cons]
    by_cases hkey : k = key
    · rw [if_pos (hkey ▸ h), valueAt?, valueAt?, if_pos hkey, if_pos hkey]
    · rw [valueAt?, if_neg hkey, ← ih]
      split
      · rw [valueAt?, if_neg hkey]
      · rfl

/-- Two entries of the list that have one key have one value. -/
def Consistent (entries : List (String × α)) : Prop :=
  ∀ e ∈ entries, ∀ e' ∈ entries, e.1 = e'.1 → e.2 = e'.2

/-- Entries with distinct keys are `Consistent`. -/
theorem Consistent.of_nodup {entries : List (String × α)} (h : (entries.map (·.1)).Nodup) :
    Consistent entries := fun _ he _ he' hkey =>
  congrArg Prod.snd (List.inj_on_of_nodup_map h he he' hkey)

/-- Among `Consistent` entries, `valueAt?` finds exactly the entries. -/
theorem valueAt?_eq_some_iff {entries : List (String × α)} (h : Consistent entries)
    {key : String} {value : α} : valueAt? key entries = some value ↔ (key, value) ∈ entries := by
  refine ⟨mem_of_valueAt?_eq_some, fun hmem => ?_⟩
  obtain ⟨found, hfound⟩ := valueAt?_isSome_of_mem hmem
  have hvalue : found = value := h _ (mem_of_valueAt?_eq_some hfound) _ hmem rfl
  exact hvalue ▸ hfound

namespace Dict

/-! ## Entries -/

/-- `Dict.entries` has no key twice. -/
theorem nodup_keys (d : Dict α) : (d.entries.map (·.1)).Nodup := by
  refine List.pairwise_map.2 (d.sorted.imp ?_)
  intro e e' hlt heq
  exact String.lt_irrefl e.1 (heq ▸ hlt)

/-- `Dict.entries` has no entry twice. -/
theorem nodup_entries (d : Dict α) : d.entries.Nodup := d.nodup_keys.of_map

/-- The entries of a dictionary are `Consistent`. -/
theorem consistent_entries (d : Dict α) : Consistent d.entries := .of_nodup d.nodup_keys

/-- The entries of a dictionary are what `Dict.find?` finds. -/
theorem mem_entries_iff (d : Dict α) (key : String) (value : α) :
    (key, value) ∈ d.entries ↔ d.find? key = some value :=
  (valueAt?_eq_some_iff d.consistent_entries).symm

/-- The keys of a dictionary are those at which `Dict.find?` finds something. -/
theorem mem_keys_iff (d : Dict α) (key : String) :
    key ∈ d.entries.map (·.1) ↔ ∃ value, d.find? key = some value := by
  simp [← mem_entries_iff]

/-- `Dict.insert` adds the key and no other. -/
theorem mem_keys_insert (d : Dict α) (key other : String) (value : α) :
    other ∈ (d.insert key value).entries.map (·.1) ↔
      other = key ∨ other ∈ d.entries.map (·.1) := by
  rw [mem_keys_iff, mem_keys_iff, find?_insert]
  split
  next h => simp [h]
  next h => simp [Ne.symm h]

/-- `Dict.insert` adds one to the size, unless `Dict.find?` finds the key already. -/
theorem size_insert (d : Dict α) (key : String) (value : α) :
    (d.insert key value).size = if (d.find? key).isSome then d.size else d.size + 1 := by
  have hnodup := (d.insert key value).nodup_keys
  have hsize : ∀ e : Dict α, e.size = (e.entries.map (·.1)).length := fun e =>
    (List.length_map _).symm
  rw [hsize, hsize d]
  split
  -- The keys stay the same, or there is one more; in both cases the sizes follow from `Nodup`.
  next hthere =>
    have hkey : key ∈ d.entries.map (·.1) :=
      (d.mem_keys_iff key).2 (Option.isSome_iff_exists.1 hthere)
    refine ((List.perm_ext_iff_of_nodup hnodup d.nodup_keys).2 fun other => ?_).length_eq
    rw [mem_keys_insert, or_iff_right_of_imp (fun h => h ▸ hkey)]
  next hnew =>
    have hkey : key ∉ d.entries.map (·.1) := fun h =>
      hnew (Option.isSome_iff_exists.2 ((d.mem_keys_iff key).1 h))
    have hcons := List.nodup_cons.2 ⟨hkey, d.nodup_keys⟩
    refine ((List.perm_ext_iff_of_nodup hnodup hcons).2 fun other => ?_).length_eq
    rw [mem_keys_insert, List.mem_cons]

/-- Dictionaries on which `Dict.find?` agrees at every key are equal. -/
theorem ext_find? {d e : Dict α} (h : ∀ key, d.find? key = e.find? key) : d = e := by
  have hmem : ∀ entry, entry ∈ d.entries ↔ entry ∈ e.entries := fun entry => by
    rw [d.mem_entries_iff entry.1 entry.2, e.mem_entries_iff, h]
  have hperm : d.entries.Perm e.entries :=
    (List.perm_ext_iff_of_nodup d.nodup_entries e.nodup_entries).2 hmem
  -- Lists in strictly increasing order have no other order to be in.
  have hentries : d.entries = e.entries :=
    hperm.eq_of_pairwise (fun a b _ _ hab hba => absurd hba (String.lt_asymm hab)) d.sorted
      e.sorted
  cases d
  cases e
  cases hentries
  rfl

/-! ## Dictionaries from lists -/

/-- Of the entries with one key, `Dict.ofList` keeps the last. -/
theorem find?_ofList (entries : List (String × α)) (key : String) :
    (ofList entries).find? key = valueAt? key entries.reverse := by
  induction entries using List.reverseRecOn with
  | nil => rfl
  | append_singleton entries e ih =>
    rw [ofList_append_singleton, find?_insert, List.reverse_append, ih]
    rfl

/-- `Dict.ofList` keeps every one of `Consistent` entries. -/
theorem find?_ofList_eq_some_iff {entries : List (String × α)} (h : Consistent entries)
    {key : String} {value : α} :
    (ofList entries).find? key = some value ↔ (key, value) ∈ entries := by
  have hreverse : Consistent entries.reverse := fun e he e' he' =>
    h e (List.mem_reverse.1 he) e' (List.mem_reverse.1 he')
  rw [find?_ofList, valueAt?_eq_some_iff hreverse, List.mem_reverse]

/-- `Dict.ofList` adds no entry of its own. -/
theorem mem_of_mem_entries_ofList {entries : List (String × α)} {e : String × α}
    (h : e ∈ (ofList entries).entries) : e ∈ entries := by
  rw [mem_entries_iff _ e.1 e.2, find?_ofList] at h
  exact List.mem_reverse.1 (mem_of_valueAt?_eq_some h)

/-- `Dict.ofList` only orders the entries if their keys are distinct. -/
theorem entries_ofList_perm {entries : List (String × α)} (h : (entries.map (·.1)).Nodup) :
    (ofList entries).entries.Perm entries := by
  refine (List.perm_ext_iff_of_nodup (ofList entries).nodup_entries h.of_map).2 fun e => ?_
  rw [mem_entries_iff _ e.1 e.2, find?_ofList_eq_some_iff (.of_nodup h)]

/-- `Dict.ofList` does not depend on the order of `Consistent` entries. -/
theorem ofList_eq_of_perm {entries others : List (String × α)} (h : Consistent entries)
    (hperm : others.Perm entries) : ofList others = ofList entries := by
  have hothers : Consistent others := fun e he e' he' =>
    h e (hperm.mem_iff.1 he) e' (hperm.mem_iff.1 he')
  refine ext_find? fun key => Option.ext fun value => ?_
  rw [find?_ofList_eq_some_iff hothers, find?_ofList_eq_some_iff h, hperm.mem_iff]

/-- `Dict.ofList` keeps every key of the list. -/
theorem mem_keys_ofList {entries : List (String × α)} {key : String} :
    key ∈ (ofList entries).entries.map (·.1) ↔ key ∈ entries.map (·.1) := by
  rw [List.mem_map, List.mem_map]
  constructor
  · rintro ⟨e, he, rfl⟩
    exact ⟨e, mem_of_mem_entries_ofList he, rfl⟩
  · rintro ⟨e, he, rfl⟩
    obtain ⟨found, hfound⟩ := valueAt?_isSome_of_mem (List.mem_reverse.2 he)
    rw [← find?_ofList, ← mem_entries_iff] at hfound
    exact ⟨_, hfound, rfl⟩

/-- `Dict.ofList` has one entry for each key of the list. -/
theorem size_ofList (entries : List (String × α)) :
    (ofList entries).size = (entries.map (·.1)).dedup.length := by
  have hperm : ((ofList entries).entries.map (·.1)).Perm (entries.map (·.1)).dedup :=
    (List.perm_ext_iff_of_nodup (ofList entries).nodup_keys (List.nodup_dedup _)).2 fun key => by
      rw [mem_keys_ofList, List.mem_dedup]
  rw [size, ← hperm.length_eq, List.length_map]

/-- `Dict.ofList` gives back a dictionary from its own entries. -/
theorem ofList_entries (d : Dict α) : ofList d.entries = d := by
  refine ext_find? fun key => Option.ext fun value => ?_
  rw [find?_ofList_eq_some_iff d.consistent_entries, mem_entries_iff]

/-! ## Dictionaries with related values -/

/-- Two dictionaries have the same keys, and values related by `R` at each of them. -/
def Rel {β : Type v} (R : α → β → Prop) (d : Dict α) (e : Dict β) : Prop :=
  List.Forall₂ (fun a b => a.1 = b.1 ∧ R a.2 b.2) d.entries e.entries

section Rel

variable {β : Type v} {R : α → β → Prop}

/-- Empty dictionaries are related. -/
theorem rel_empty : Rel R empty empty := .nil

/-- `Dict.insert` of related values keeps dictionaries related. -/
theorem Rel.insert {d : Dict α} {e : Dict β} (h : Rel R d e) (key : String) {a : α} {b : β}
    (hab : R a b) : Rel R (d.insert key a) (e.insert key b) := by
  have hentries : ∀ {entries : List (String × α)} {others : List (String × β)},
      List.Forall₂ (fun a b => a.1 = b.1 ∧ R a.2 b.2) entries others →
        List.Forall₂ (fun a b => a.1 = b.1 ∧ R a.2 b.2) (insertEntry key a entries)
          (insertEntry key b others) := by
    intro entries others h
    induction h with
    | nil => exact .cons ⟨rfl, hab⟩ .nil
    | @cons x y xs ys hxy hrest ih =>
      obtain ⟨hkey, hvalue⟩ := hxy
      -- The keys are the same, so both entries go to the same place.
      rw [insertEntry, insertEntry, ← hkey]
      split
      · exact .cons ⟨rfl, hab⟩ hrest
      · split
        · exact .cons ⟨rfl, hab⟩ (.cons ⟨rfl, hvalue⟩ hrest)
        · exact .cons ⟨rfl, hvalue⟩ ih
  exact hentries h

/-- `Dict.ofList` makes related dictionaries of entries with equal keys and related values. -/
theorem rel_ofList {entries : List (String × α)} {others : List (String × β)}
    (h : List.Forall₂ (fun a b => a.1 = b.1 ∧ R a.2 b.2) entries others) :
    Rel R (ofList entries) (ofList others) := by
  have hfold : ∀ {d : Dict α} {e : Dict β}, Rel R d e →
      Rel R (entries.foldl (fun d a => d.insert a.1 a.2) d)
        (others.foldl (fun e b => e.insert b.1 b.2) e) := by
    induction h with
    | nil => exact fun hde => hde
    | cons hab _ ih =>
      intro d e hde
      rw [List.foldl_cons, List.foldl_cons, ← hab.1]
      exact ih (hde.insert _ hab.2)
  exact hfold rel_empty

end Rel

/-! ## Parts of dictionaries -/

/-- The entries of a dictionary whose keys satisfy `p`. -/
def restrict (d : Dict α) (p : String → Bool) : Dict α :=
  ⟨d.entries.filter fun e => p e.1, d.sorted.filter _⟩

/-- `Dict.find?` finds in `d.restrict p` what it finds in `d`, where `p` holds of the key. -/
theorem find?_restrict (d : Dict α) (p : String → Bool) (key : String) :
    (d.restrict p).find? key = if p key then d.find? key else none := by
  refine Option.ext fun value => ?_
  rw [← mem_entries_iff, restrict, List.mem_filter, mem_entries_iff]
  cases p key <;> simp

/-- The entries of `d.restrict p` and of its complement make up `d` again. -/
theorem ofList_restrict_append (d : Dict α) (p : String → Bool) :
    ofList ((d.restrict p).entries ++ (d.restrict fun key => !p key).entries) = d := by
  have hperm : ((d.restrict p).entries ++ (d.restrict fun key => !p key).entries).Perm d.entries :=
    List.filter_append_perm _ _
  rw [ofList_eq_of_perm d.consistent_entries hperm, ofList_entries]

/-- In front of an entry `e` of `Dict.entries` stand the entries with smaller keys. -/
theorem mem_front_iff (d : Dict α) {front back : List (String × α)} {e : String × α}
    (h : d.entries = front ++ e :: back) (other : String × α) :
    other ∈ front ↔ other ∈ d.entries ∧ other.1 < e.1 := by
  have hsorted := d.sorted
  rw [h, List.pairwise_append, List.pairwise_cons] at hsorted
  obtain ⟨-, ⟨hback, -⟩, hfront⟩ := hsorted
  refine ⟨fun hmem => ⟨h ▸ List.mem_append_left _ hmem, hfront _ hmem _ List.mem_cons_self⟩, ?_⟩
  rintro ⟨hmem, hlt⟩
  rw [h, List.mem_append, List.mem_cons] at hmem
  rcases hmem with hmem | rfl | hmem
  · exact hmem
  · exact absurd hlt (String.lt_irrefl _)
  · exact absurd (hback _ hmem) (String.lt_asymm hlt)

/-- Leaves out the entry with a key, if there is one. -/
def erase (d : Dict α) (key : String) : Dict α := d.restrict (· ≠ key)

/-- `Dict.erase` removes one key and leaves what is found at the others. -/
theorem find?_erase (d : Dict α) (key other : String) :
    (d.erase key).find? other = if key = other then none else d.find? other := by
  rw [erase, find?_restrict]
  by_cases h : key = other <;> simp [h, eq_comm]

/-- Moves the entry with a key, if there is one, from the second dictionary to the first. -/
def takeOne (parts : Dict α × Dict α) (key : String) : Dict α × Dict α :=
  match parts.2.find? key with
  | some value => (parts.1.insert key value, parts.2.erase key)
  | none => parts

/-- Takes the entries with some keys out of a dictionary, one after the other: what was taken, and
what is left.  A key may be named twice or be missing. -/
def takeAll (d : Dict α) (keys : List String) : Dict α × Dict α := keys.foldl takeOne (empty, d)

/-- Moving entries one by one from any two parts, key by key: what was moved is found in the first,
and no longer in the second.  The induction is on `keys`, with the parts left free. -/
private theorem find?_foldl_takeOne (keys : List String) (parts : Dict α × Dict α) (key : String) :
    ((keys.foldl takeOne parts).1.find? key =
      if key ∈ keys then (parts.2.find? key).or (parts.1.find? key) else parts.1.find? key) ∧
    ((keys.foldl takeOne parts).2.find? key =
      if key ∈ keys then none else parts.2.find? key) := by
  -- What was taken once is not there when its key comes again, so it stays as it is.
  induction keys generalizing parts with
  | nil => exact ⟨rfl, rfl⟩
  | cons k rest ih =>
    rw [List.foldl_cons, (ih _).1, (ih _).2]
    cases hfind : parts.2.find? k with
    | none =>
      by_cases hkey : key = k
      · subst hkey
        simp [takeOne, hfind]
      · simp [takeOne, hfind, hkey]
    | some value =>
      by_cases hkey : key = k
      · subst hkey
        simp [takeOne, hfind, find?_insert, find?_erase]
      · simp [takeOne, hfind, find?_insert, find?_erase, hkey, Ne.symm hkey]

/-- `Dict.takeAll` finds the taken keys in its first part, and the others in its second. -/
theorem find?_takeAll (d : Dict α) (keys : List String) (key : String) :
    ((d.takeAll keys).1.find? key = if key ∈ keys then d.find? key else none) ∧
    ((d.takeAll keys).2.find? key = if key ∈ keys then none else d.find? key) := by
  simpa [takeAll] using find?_foldl_takeOne keys (empty, d) key

/-- `Dict.takeAll` splits a dictionary by whether its keys are among `keys`, in whatever order they
are named. -/
theorem takeAll_eq (d : Dict α) (keys : List String) :
    d.takeAll keys = (d.restrict keys.contains, d.restrict fun key => !keys.contains key) := by
  refine Prod.ext (ext_find? fun key => ?_) (ext_find? fun key => ?_)
  · rw [(d.find?_takeAll keys key).1, find?_restrict]
    simp
  · rw [(d.find?_takeAll keys key).2, find?_restrict]
    by_cases h : key ∈ keys <;> simp [h]

end Dict
end FirewallProbe
