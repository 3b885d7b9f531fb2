import FirewallProbe.Correlation
import FirewallProbe.Proofs.Dict

/-!
# What an index finds

An index is built by adding records one after the other, and a record takes the place of an earlier
one with its key.  What it finds for a key is therefore the last record with that key.  A record
that takes the place of another one is noted, so what is noted and what is kept are all the records.

## Key results

- `CorrelationIndex.find?_build`: the last record with a key is found
- `CorrelationIndex.size_build`: there is one entry for each key
- `CorrelationIndex.length_events_addAll` / `count_events_addAll`: what is noted, in all and by key
- `CorrelationIndex.left_join`: records joined to the last record of their key
-/

namespace FirewallProbe

variable {α : Type}

/-- The last of the `records` whose key is `key`. -/
def lastWith? (keyOf : α → String) (records : List α) (key : String) : Option α :=
  (records.filter fun r => keyOf r = key).getLast?

/-- A first record is what `lastWith?` finds only if no record after it has its key. -/
theorem lastWith?_cons (keyOf : α → String) (record : α) (rest : List α) (key : String) :
    lastWith? keyOf (record :: rest) key =
      (lastWith? keyOf rest key).or (if keyOf record = key then some record else none) := by
  rw [lastWith?, List.filter_cons, lastWith?]
  by_cases hkey : keyOf record = key
  · simp [hkey, List.getLast?_cons]
  · simp [hkey]

/-- A last record is what `lastWith?` finds for its own key, and no matter for the others. -/
theorem lastWith?_concat (keyOf : α → String) (records : List α) (record : α) (key : String) :
    lastWith? keyOf (records ++ [record]) key =
      if keyOf record = key then some record else lastWith? keyOf records key := by
  rw [lastWith?, List.filter_append, lastWith?]
  split
  next hkey => simp [hkey]
  next hkey => simp [hkey]

namespace CorrelationIndex

theorem value_add (index : CorrelationIndex α) (key : String) (record : α) :
    (index.add key record).value = index.insert key record := rfl

/-- After `addAll`, a key leads to the last of the `records` with it, or to what `index` had for it
if there is none. -/
theorem find?_addAll (keyOf : α → String) (index : CorrelationIndex α) (records : List α)
    (key : String) :
    (addAll keyOf index records).value.find? key =
      (lastWith? keyOf records key).or (index.find? key) := by
  induction records generalizing index with
  | nil => rfl
  | cons record rest ih =>
    -- A later record with the key covers what this one puts there.
    rw [lastWith?_cons, addAll, ih, value_add, Dict.find?_insert]
    cases lastWith? keyOf rest key with
    | some _ => rfl
    | none => split <;> rfl

/-- `build` finds the last record with a key. -/
theorem find?_build (keyOf : α → String) (records : List α) (key : String) :
    (build keyOf records).value.find? key = lastWith? keyOf records key := by
  rw [build, find?_addAll, Dict.find?_empty, Option.or_none]

/-! ## The size of an index, and what is noted -/

/-- The index that `addAll` makes is a left fold of `Dict.insert` over the records. -/
theorem value_addAll (keyOf : α → String) (index : CorrelationIndex α) (records : List α) :
    (addAll keyOf index records).value =
      (records.map fun r => (keyOf r, r)).foldl (fun d e => d.insert e.1 e.2) index := by
  induction records generalizing index with
  | nil => rfl
  | cons record rest ih => rw [addAll, ih]; rfl

/-- `add` either makes room for a new key or notes an event. -/
theorem length_events_add (index : CorrelationIndex α) (key : String) (record : α) :
    (index.add key record).events.length + (index.add key record).value.size = index.size + 1 := by
  rw [add, Dict.size_insert]
  split
  · exact Nat.add_comm _ _
  · exact Nat.zero_add _

/-- Of the records that `addAll` adds, each makes room for a new key or is noted. -/
theorem length_events_addAll (keyOf : α → String) (index : CorrelationIndex α) (records : List α) :
    (addAll keyOf index records).events.length + (addAll keyOf index records).value.size =
      index.size + records.length := by
  induction records generalizing index with
  | nil => exact Nat.zero_add _
  | cons record rest ih =>
    have hfirst := index.length_events_add (keyOf record) record
    have hrest := ih (index.add (keyOf record) record).value
    rw [addAll, List.length_append, List.length_cons]
    dsimp only
    omega

theorem duplicateKeyEvent_injective : Function.Injective duplicateKeyEvent := by
  intro key other h
  simpa [duplicateKeyEvent] using h

/-- `addAll` notes `duplicateKeyEvent key` for each record with `key` that takes the place of
another.  If `index` has no such key, the first record with it takes nobody's place. -/
theorem count_events_addAll (keyOf : α → String) (index : CorrelationIndex α) (records : List α)
    (key : String) :
    (addAll keyOf index records).events.count (duplicateKeyEvent key) =
      records.countP (fun r => keyOf r = key) - if (index.find? key).isSome then 0 else 1 := by
  induction records generalizing index with
  | nil => simp [addAll]
  | cons record rest ih =>
    -- The record is noted if the index has its key, and the index has the key for all that follow.
    rw [addAll, List.count_append, ih, value_add, Dict.find?_insert, List.countP_cons]
    by_cases hkey : keyOf record = key
    · subst hkey
      cases hfind : index.find? (keyOf record) with
      | none => simp [add, hfind]
      | some _ => simp [add, hfind, Nat.add_comm]
    · have hother : duplicateKeyEvent (keyOf record) ≠ duplicateKeyEvent key :=
        duplicateKeyEvent_injective.ne hkey
      have hnone : (index.add (keyOf record) record).events.count (duplicateKeyEvent key) = 0 := by
        rw [add, List.count_eq_zero]
        split
        · simpa using hother.symm
        · exact List.not_mem_nil
      rw [hnone, Nat.zero_add, if_neg hkey]
      simp [hkey]

/-- `build` has one entry for each key that a record has. -/
theorem size_build (keyOf : α → String) (records : List α) :
    (build keyOf records).value.size = (records.map keyOf).dedup.length := by
  have hvalue : (build keyOf records).value = Dict.ofList (records.map fun r => (keyOf r, r)) :=
    value_addAll keyOf Dict.empty records
  rw [hvalue, Dict.size_ofList, List.map_map]
  rfl

/-- `correlate` joins each of the `primary` records to the last `secondary` record of its key.
`build` finds for each key the last record with it, and a record that is added changes what is found
for its own key only.  There are as many entries as keys; every further record of a key is noted
once, and nothing else is. -/
theorem left_join {α β : Type} (primary : List α) (secondary : List β) (primaryKey : α → String)
    (secondaryKey : β → String) :
    (∀ key, (build secondaryKey secondary).value.find? key =
      (secondary.filter fun r => secondaryKey r = key).getLast?) ∧
    (build secondaryKey secondary).value.size = (secondary.map secondaryKey).dedup.length ∧
    ((build secondaryKey secondary).value.isEmpty = true ↔ secondary = []) ∧
    (build secondaryKey secondary).events.length + (build secondaryKey secondary).value.size =
      secondary.length ∧
    (∀ key, (build secondaryKey secondary).events.count (duplicateKeyEvent key) =
      (secondary.filter fun r => secondaryKey r = key).length - 1) ∧
    correlate primary (build secondaryKey secondary).value primaryKey = primary.map (fun p =>
      (p, (secondary.filter fun r => secondaryKey r = primaryKey p).getLast?)) ∧
    ∀ record key, (build secondaryKey (secondary ++ [record])).value.find? key =
      if secondaryKey record = key then some record
      else (build secondaryKey secondary).value.find? key := by
  refine ⟨find?_build _ _, size_build _ _, ?_, ?_, fun key => ?_, ?_, fun record key => ?_⟩
  · have hsize := size_build secondaryKey secondary
    rw [Dict.size] at hsize
    rw [Dict.isEmpty, List.isEmpty_iff, ← List.length_eq_zero_iff, hsize, List.length_eq_zero_iff]
    simp
  · exact (length_events_addAll secondaryKey Dict.empty secondary).trans (Nat.zero_add _)
  · rw [build, count_events_addAll, List.countP_eq_length_filter]
    rfl
  · exact List.map_congr_left fun p _ => by rw [find?_build]; rfl
  · rw [find?_build, find?_build, lastWith?_concat]

end CorrelationIndex
end FirewallProbe
