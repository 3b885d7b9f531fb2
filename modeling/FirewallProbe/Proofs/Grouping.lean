import Mathlib.Data.List.Sort
import Mathlib.Data.String.Basic
import FirewallProbe.Grouping

/-!
# What a grouping keeps

The keys of a grouping increase strictly, so no key has two groups, and every member stands in the
group of its key.  What is made of a grouping does not depend on the order of the members as long as
what is made of a group does not.

## Key results

- `pairwise_distinctKeys`: the keys increase strictly
- `nodup_map_fst_group`: no key has two groups
- `perm_flatMap_group`: the groups hold all members
- `flatMap_group_of_perm`: the order of the members makes no difference
-/

namespace FirewallProbe

/-- A list falls into the parts that have one of some `keys` each. -/
theorem perm_flatMap_filter_key {κ : Type u} [DecidableEq κ] {α : Type v} (keyOf : α → κ)
    {keys : List κ} (hnodup : keys.Nodup) {members : List α} (h : ∀ a ∈ members, keyOf a ∈ keys) :
    (keys.flatMap fun key => members.filter fun a => keyOf a = key).Perm members := by
  induction keys generalizing members with
  | nil =>
    rw [List.eq_nil_iff_forall_not_mem.2 fun a ha => List.not_mem_nil (h a ha)]
    exact .nil
  | cons k rest ih =>
    obtain ⟨hk, hrest⟩ := List.nodup_cons.1 hnodup
    -- What is left once the members with the first key are taken out.
    have hothers : ∀ key ∈ rest, (members.filter fun a => keyOf a = key) =
        (members.filter fun a => !decide (keyOf a = k)).filter fun a => keyOf a = key := by
      intro key hkey
      rw [List.filter_filter]
      refine List.filter_congr fun a _ => ?_
      by_cases ha : keyOf a = key
      · have hne : key ≠ k := fun heq => hk (heq ▸ hkey)
        simp [ha, hne]
      · simp [ha]
    rw [List.flatMap_cons, List.flatMap_congr hothers]
    refine ((ih hrest fun a ha => ?_).append_left _).trans (List.filter_append_perm _ members)
    obtain ⟨ha, hne⟩ := List.mem_filter.1 ha
    exact (List.mem_cons.1 (h a ha)).resolve_left (by simpa using hne)

variable {κ : Type u} [LinearOrder κ] [DecidableLT κ] [DecidableEq κ]

/-- `insertKey` keeps an increasing list increasing. -/
theorem pairwise_insertKey (key : κ) {keys : List κ} (h : keys.Pairwise (· < ·)) :
    (insertKey key keys).Pairwise (· < ·) := by
  induction keys with
  | nil => exact List.pairwise_singleton _ _
  | cons k rest ih =>
    obtain ⟨hk, hrest⟩ := List.pairwise_cons.1 h
    unfold insertKey
    split
    · exact h
    next hne =>
      split
      next hlt =>
        exact h.cons fun x hx => (List.mem_cons.1 hx).elim (fun he => he ▸ hlt)
          fun hx => hlt.trans (hk x hx)
      -- The key goes further back, so `k` stays in front of it.
      next hnlt =>
        refine (ih hrest).cons fun x hx => (mem_insertKey.1 hx).elim (fun he => ?_) (hk x)
        exact he ▸ lt_of_le_of_ne (not_lt.1 hnlt) (Ne.symm hne)

/-- `distinctKeys` is strictly increasing, so that no key stands in it twice. -/
theorem pairwise_distinctKeys (keys : List κ) : (distinctKeys keys).Pairwise (· < ·) := by
  induction keys with
  | nil => exact List.Pairwise.nil
  | cons k rest ih => exact pairwise_insertKey k ih

/-- `distinctKeys` depends on which keys occur, and on nothing else. -/
theorem distinctKeys_congr {keys others : List κ} (h : ∀ key, key ∈ keys ↔ key ∈ others) :
    distinctKeys keys = distinctKeys others :=
  (pairwise_distinctKeys keys).eq_of_mem_iff (pairwise_distinctKeys others) fun key => by
    rw [mem_distinctKeys, mem_distinctKeys, h]

variable {α : Type v} {β : Type w} (keyOf : α → κ)

/-- `group` has one group for each key. -/
theorem nodup_map_fst_group (members : List α) :
    ((group keyOf members).map (·.1)).Nodup := by
  rw [map_fst_group]
  exact (pairwise_distinctKeys _).imp fun h => h.ne

/-- Every member stands in one group. -/
theorem perm_flatMap_group (members : List α) :
    ((group keyOf members).flatMap (·.2)).Perm members := by
  rw [group, List.flatMap_map]
  refine perm_flatMap_filter_key keyOf ((pairwise_distinctKeys _).imp fun h => h.ne) fun a ha => ?_
  exact mem_distinctKeys.2 (List.mem_map_of_mem ha)

/-- The order of the `members` makes no difference to what is made of the groups, unless it does to
`make`. -/
theorem flatMap_group_of_perm {make : κ × List α → List β}
    (hmake : ∀ key xs ys, List.Perm xs ys → make (key, xs) = make (key, ys))
    {members others : List α} (h : members.Perm others) :
    (group keyOf members).flatMap make = (group keyOf others).flatMap make := by
  have hkeys : distinctKeys (members.map keyOf) = distinctKeys (others.map keyOf) :=
    distinctKeys_congr fun key => (h.map keyOf).mem_iff
  rw [group, group, List.flatMap_map, List.flatMap_map, hkeys]
  exact List.flatMap_congr fun key _ => hmake key _ _ (h.filter _)

end FirewallProbe
