import Mathlib.Data.List.Forall2
import FirewallProbe.Proofs.Dict
import FirewallProbe.Proofs.Except
import FirewallProbe.Schema.Mixed

/-!
# Splitting an object loses nothing

An object with fixed fields and dynamic entries is split by its keys: the fixed part is read from
the members that are named, whichever of the names occur and however often, and the dynamic part
holds one entry for each of the others.  What cannot be read is named by the error, the fixed part
first and then the first entry in the order of the keys.

## Key results

- `MixedRecord.split_eq_ok_iff` / `rel_others`: how the members of an object are read
- `MixedRecord.decode_members`: an object is read from the two parts that its names split it into
- `MixedRecord.decodeEntries_eq_ok_iff` / `decodeEntries_eq_error_iff`: how entries are read
- `MixedRecord.decode_partitions`: the whole of it
-/

namespace FirewallProbe
namespace MixedRecord

variable {α β : Type}

/-! ## Entries -/

/-- An entry with what its value is read as, under the same key. -/
def IsRead (entry : Decoder β) (m : String × Json) (b : String × β) : Prop :=
  m.1 = b.1 ∧ entry m.2 = .ok b.2

/-- `decodeEntries` reads the `members` one by one. -/
theorem decodeEntries_eq_ok_iff (entry : Decoder β) (members : List (String × Json))
    (entries : List (String × β)) :
    decodeEntries entry members = .ok entries ↔ List.Forall₂ (IsRead entry) members entries := by
  induction members generalizing entries with
  | nil => simp [decodeEntries, eq_comm]
  | cons m rest ih =>
    obtain ⟨key, v⟩ := m
    rw [decodeEntries, List.forall₂_cons_left_iff]
    cases hv : entry v with
    | error cause => simp [IsRead, hv]
    | ok b =>
      simp only [Except.bind_eq_ok_iff, ih]
      constructor
      · rintro ⟨others, hothers, heq⟩
        cases heq
        exact ⟨(key, b), others, ⟨rfl, hv⟩, hothers, rfl⟩
      · rintro ⟨⟨key', b'⟩, others, ⟨hkey, hb⟩, hothers, rfl⟩
        obtain rfl : key = key' := hkey
        obtain rfl : b = b' := Except.ok.inj (hv.symm.trans hb)
        exact ⟨others, hothers, rfl⟩

/-- `decodeEntries` fails with the first member that cannot be read, and names its key. -/
theorem decodeEntries_eq_error_iff (entry : Decoder β) (members : List (String × Json))
    (fault : PartFault) :
    decodeEntries entry members = .error fault ↔
      ∃ front key v back cause, members = front ++ (key, v) :: back ∧
        (∀ m ∈ front, ∃ b, entry m.2 = .ok b) ∧ entry v = .error cause ∧
        fault = .dynamicEntry key cause := by
  induction members with
  | nil => simp [decodeEntries]
  | cons m rest ih =>
    obtain ⟨key, v⟩ := m
    rw [decodeEntries]
    cases hv : entry v with
    | error cause =>
      constructor
      · rintro ⟨⟩
        exact ⟨[], key, v, rest, cause, rfl, by simp, hv, rfl⟩
      · rintro ⟨front, key', v', back, cause', hsplit, hfront, hcause, rfl⟩
        -- Nothing that can be read stands before the first entry.
        cases front with
        | nil =>
          obtain ⟨⟨rfl, rfl⟩, -⟩ := by simpa using hsplit
          rw [Except.error.inj (hv.symm.trans hcause)]
        | cons m front =>
          obtain ⟨rfl, -⟩ := by simpa using hsplit
          obtain ⟨b, hb⟩ := hfront _ List.mem_cons_self
          simp [hv] at hb
    | ok b =>
      have hrest : (decodeEntries entry rest >>= fun entries => Except.ok ((key, b) :: entries)) =
          .error fault ↔ decodeEntries entry rest = .error fault := by
        simp [Except.bind_eq_error_iff]
      refine hrest.trans (ih.trans ⟨?_, ?_⟩)
      · rintro ⟨front, key', v', back, cause, rfl, hfront, hcause, rfl⟩
        exact ⟨(key, v) :: front, key', v', back, cause, rfl,
          List.forall_mem_cons.2 ⟨⟨b, hv⟩, hfront⟩, hcause, rfl⟩
      · rintro ⟨front, key', v', back, cause, hsplit, hfront, hcause, rfl⟩
        cases front with
        | nil =>
          obtain ⟨⟨rfl, rfl⟩, -⟩ := by simpa using hsplit
          simp [hv] at hcause
        | cons m front =>
          obtain ⟨rfl, rfl⟩ := by simpa using hsplit
          exact ⟨front, key', v', back, cause, rfl,
            fun m hm => hfront m (List.mem_cons_of_mem _ hm), hcause, rfl⟩

/-- All `members` can be read together if each of them can. -/
theorem exists_isRead_iff (entry : Decoder β) (members : List (String × Json)) :
    (∃ entries, List.Forall₂ (IsRead entry) members entries) ↔
      ∀ m ∈ members, ∃ b, entry m.2 = .ok b := by
  induction members with
  | nil => simp
  | cons m rest ih =>
    rw [List.forall_mem_cons, ← ih]
    constructor
    · rintro ⟨_, hread⟩
      obtain ⟨b, entries, hb, hrest, -⟩ := List.forall₂_cons_left_iff.1 hread
      exact ⟨⟨b.2, hb.2⟩, entries, hrest⟩
    · rintro ⟨⟨b, hb⟩, entries, hrest⟩
      exact ⟨(m.1, b) :: entries, .cons ⟨rfl, hb⟩ hrest⟩

/-- The `entries` that are read keep the keys of the `members`. -/
theorem map_fst_of_isRead {entry : Decoder β} {members : List (String × Json)}
    {entries : List (String × β)} (h : List.Forall₂ (IsRead entry) members entries) :
    entries.map (·.1) = members.map (·.1) := by
  induction h with
  | nil => rfl
  | cons hfirst _ ih => rw [List.map_cons, List.map_cons, ih, hfirst.1]

/-- The members of an object in order make a dictionary with the same keys in the same order. -/
theorem entries_ofList_of_isRead {entry : Decoder β} {source : Dict Json}
    {entries : List (String × β)} (h : List.Forall₂ (IsRead entry) source.entries entries) :
    (Dict.ofList entries).entries = entries := by
  have hsorted : entries.Pairwise fun a b => a.1 < b.1 := by
    have hkeys := List.pairwise_map.2 source.sorted
    rw [← map_fst_of_isRead h] at hkeys
    exact List.pairwise_map.1 hkeys
  exact congrArg Dict.entries (Dict.ofList_entries ⟨entries, hsorted⟩)

/-- In the order of the keys, the error of `decodeEntries` is that of the smallest key whose value
cannot be read. -/
theorem decodeEntries_entries_eq_error_iff (entry : Decoder β) (d : Dict Json)
    (fault : PartFault) :
    decodeEntries entry d.entries = .error fault ↔
      ∃ key v cause, d.find? key = some v ∧ entry v = .error cause ∧
        (∀ other w, d.find? other = some w → other < key → ∃ b, entry w = .ok b) ∧
        fault = .dynamicEntry key cause := by
  rw [decodeEntries_eq_error_iff]
  constructor
  · rintro ⟨front, key, v, back, cause, hsplit, hfront, hcause, rfl⟩
    have hmem : (key, v) ∈ d.entries := hsplit ▸ List.mem_append_right _ List.mem_cons_self
    refine ⟨key, v, cause, (d.mem_entries_iff key v).1 hmem, hcause, fun other w hw hlt => ?_, rfl⟩
    exact hfront (other, w)
      ((d.mem_front_iff hsplit _).2 ⟨(d.mem_entries_iff other w).2 hw, hlt⟩)
  · rintro ⟨key, v, cause, hfind, hcause, hsmaller, rfl⟩
    obtain ⟨front, back, hsplit⟩ := List.append_of_mem ((d.mem_entries_iff key v).2 hfind)
    refine ⟨front, key, v, back, cause, hsplit, fun m hm => ?_, hcause, rfl⟩
    obtain ⟨hmem, hlt⟩ := (d.mem_front_iff hsplit m).1 hm
    exact hsmaller m.1 m.2 ((d.mem_entries_iff m.1 m.2).1 hmem) hlt

/-! ## Members -/

section

variable {names : List String} {members : List (String × Json)} {fixed : Decoder α}
  {entry : Decoder β} {r : MixedRecord α β}

/-- The `members` of an object that are not in `names`, by their keys. -/
def others (names : List String) (members : List (String × Json)) : Dict Json :=
  Dict.ofList (dynamicMembers names members)

/-- `others` has an entry for each key that is not in `names`. -/
theorem mem_keys_others {key : String} :
    key ∈ (others names members).entries.map (·.1) ↔ key ∉ names ∧ key ∈ members.map (·.1) := by
  rw [others, Dict.mem_keys_ofList, dynamicMembers]
  simp only [List.mem_map, List.mem_filter]
  constructor
  · rintro ⟨m, ⟨hm, hnamed⟩, rfl⟩
    exact ⟨by simpa using hnamed, m, hm, rfl⟩
  · rintro ⟨hkey, m, hm, rfl⟩
    exact ⟨m, ⟨hm, by simpa using hkey⟩, rfl⟩

/-- `split` succeeds if the fixed part and each of the other members can be read. -/
theorem split_eq_ok_iff :
    split names fixed entry members = .ok r ↔
      fixed (.obj (fixedMembers names members)) = .ok r.fixed ∧
      ∃ entries, List.Forall₂ (IsRead entry) (dynamicMembers names members) entries ∧
        r.dynamic = Dict.ofList entries := by
  obtain ⟨a, dynamic⟩ := r
  rw [split]
  cases fixed (.obj (fixedMembers names members)) with
  | error cause => simp
  | ok b =>
    simp only [Except.bind_eq_ok_iff, decodeEntries_eq_ok_iff, pure, Except.pure, Except.ok.injEq,
      MixedRecord.mk.injEq]
    constructor
    · rintro ⟨entries, hentries, rfl, rfl⟩
      exact ⟨rfl, entries, hentries, rfl⟩
    · rintro ⟨rfl, entries, hentries, rfl⟩
      exact ⟨entries, hentries, rfl, rfl⟩

/-- `split` reads the dynamic part from the members that are not in `names`. -/
theorem rel_others (h : split names fixed entry members = .ok r) :
    Dict.Rel (fun w b => entry w = .ok b) (others names members) r.dynamic := by
  obtain ⟨-, entries, hentries, hdynamic⟩ := split_eq_ok_iff.1 h
  rw [hdynamic]
  exact Dict.rel_ofList hentries

/-- `split` passes over no member that is not in `names`. -/
theorem exists_read_of_split (h : split names fixed entry members = .ok r) {key : String} {w : Json}
    (hmem : (key, w) ∈ members) (hkey : key ∉ names) : ∃ b, entry w = .ok b := by
  obtain ⟨-, entries, hentries, -⟩ := split_eq_ok_iff.1 h
  have hdynamic : (key, w) ∈ dynamicMembers names members :=
    List.mem_filter.2 ⟨hmem, by simpa using hkey⟩
  exact (exists_isRead_iff entry _).1 ⟨entries, hentries⟩ _ hdynamic

end

/-! ## Objects -/

section

variable (names : List String) (fixed : Decoder α) (entry : Decoder β) (source : Dict Json)

/-- `decode` reads an object from the two parts into which `takeAll` splits it. -/
theorem decode_members :
    decode names fixed entry (.obj source.entries) =
      Except.mapError .part (do
        let a ← (fixed (.obj (source.takeAll names).1.entries)).mapError .fixedField
        let entries ← decodeEntries entry (source.takeAll names).2.entries
        return ⟨a, Dict.ofList entries⟩) := by
  rw [source.takeAll_eq]
  show Except.mapError _ (split ..) = _
  rw [split]
  have hfixed : fixedMembers names source.entries = (source.restrict names.contains).entries := rfl
  rw [hfixed]
  cases fixed (.obj (source.restrict names.contains).entries) <;> rfl

/-- `decode` returns the record of the two parts if both can be read. -/
theorem decode_eq_ok_iff (r : MixedRecord α β) :
    decode names fixed entry (.obj source.entries) = .ok r ↔
      fixed (.obj (source.takeAll names).1.entries) = .ok r.fixed ∧
      List.Forall₂ (IsRead entry) (source.takeAll names).2.entries r.dynamic.entries := by
  rw [decode_members, Except.mapError_eq_ok_iff, Except.bind_eq_ok_iff]
  simp only [Except.mapError_eq_ok_iff, Except.bind_eq_ok_iff, decodeEntries_eq_ok_iff]
  constructor
  · rintro ⟨a, ha, entries, hentries, heq⟩
    cases heq
    exact ⟨ha, (entries_ofList_of_isRead hentries).symm ▸ hentries⟩
  · rintro ⟨hfixed, hdynamic⟩
    exact ⟨r.fixed, hfixed, r.dynamic.entries, hdynamic, by rw [r.dynamic.ofList_entries]; rfl⟩

/-- `decode` succeeds if `fixed` reads the first part and `entry` each value of the second. -/
theorem exists_decode_eq_ok_iff :
    (∃ r, decode names fixed entry (.obj source.entries) = .ok r) ↔
      (∃ a, fixed (.obj (source.takeAll names).1.entries) = .ok a) ∧
      ∀ key v, (source.takeAll names).2.find? key = some v → ∃ b, entry v = .ok b := by
  have hentries : (∀ key v, (source.takeAll names).2.find? key = some v → ∃ b, entry v = .ok b) ↔
      ∃ entries, List.Forall₂ (IsRead entry) (source.takeAll names).2.entries entries := by
    simp only [← Dict.mem_entries_iff, exists_isRead_iff, Prod.forall]
  rw [hentries]
  constructor
  · rintro ⟨r, hr⟩
    obtain ⟨hfixed, hdynamic⟩ := (decode_eq_ok_iff ..).1 hr
    exact ⟨⟨_, hfixed⟩, _, hdynamic⟩
  · rintro ⟨⟨a, ha⟩, entries, hread⟩
    refine ⟨⟨a, Dict.ofList entries⟩, (decode_eq_ok_iff ..).2 ⟨ha, ?_⟩⟩
    rwa [entries_ofList_of_isRead hread]

/-- `decode` fails as the fixed part does, or else as the dynamic part does. -/
theorem decode_eq_error_iff (e : SplitError) :
    decode names fixed entry (.obj source.entries) = .error e ↔
      (∃ cause, fixed (.obj (source.takeAll names).1.entries) = .error cause ∧
        e = .part (.fixedField cause)) ∨
      (∃ a, fixed (.obj (source.takeAll names).1.entries) = .ok a) ∧
        ∃ fault, decodeEntries entry (source.takeAll names).2.entries = .error fault ∧
          e = .part fault := by
  rw [decode_members, Except.mapError_eq_error_iff]
  cases hfixed : fixed (.obj (source.takeAll names).1.entries) with
  | error cause => simp [Except.mapError, Bind.bind, Except.bind, eq_comm]
  | ok a =>
    cases hentries : decodeEntries entry (source.takeAll names).2.entries <;>
      simp [Except.mapError, Bind.bind, Except.bind, eq_comm, pure, Except.pure]

end

/-- Splitting loses nothing.  `decode` refuses what is no object with the name of its type.  The
`names`, taken out of an object one after the other by `takeAll`, leave the members that are not
named.  The object can be read if and only if `fixed` reads the named members, and `entry` each of
the others on its own; then the dynamic part holds these in the order of their keys, each read from
its own value.  If not, the error is that of the fixed part, or else that of the smallest key whose
value cannot be read.  Parts that are kept as they are make up the object again. -/
theorem decode_partitions (names : List String) (fixed : Decoder α) (entry : Decoder β) :
    (∀ v, (∀ members, v ≠ .obj members) →
      decode names fixed entry v = .error (.notAnObject v.typeName)) ∧
    (∀ source : Dict Json,
      let listed := (source.takeAll names).1
      let others := (source.takeAll names).2
      let result := decode names fixed entry (.obj source.entries)
      (∀ key, listed.find? key = if key ∈ names then source.find? key else none) ∧
      (∀ key, others.find? key = if key ∈ names then none else source.find? key) ∧
      others.entries.map (·.1) = (source.entries.map (·.1)).filter (fun key => key ∉ names) ∧
      ((∃ r, result = .ok r) ↔ (∃ a, fixed (.obj listed.entries) = .ok a) ∧
        ∀ key v, others.find? key = some v → ∃ b, entry v = .ok b) ∧
      (∀ r, result = .ok r ↔ fixed (.obj listed.entries) = .ok r.fixed ∧
        List.Forall₂ (fun m b => m.1 = b.1 ∧ entry m.2 = .ok b.2) others.entries
          r.dynamic.entries) ∧
      (∀ e, result = .error e ↔
        (∃ cause, fixed (.obj listed.entries) = .error cause ∧ e = .part (.fixedField cause)) ∨
        (∃ a, fixed (.obj listed.entries) = .ok a) ∧
          ∃ key v cause, others.find? key = some v ∧ entry v = .error cause ∧
            (∀ other w, others.find? other = some w → other < key → ∃ b, entry w = .ok b) ∧
            e = .part (.dynamicEntry key cause))) ∧
    ∀ source : Dict Json, ∃ r,
      decode names Decoder.object Decoder.any (.obj source.entries) = .ok r ∧
      Dict.ofList (r.fixed ++ r.dynamic.entries) = source := by
  refine ⟨fun v hv => ?_, fun source => ?_, fun source => ?_⟩
  · cases v with
    | obj members => exact absurd rfl (hv members)
    | _ => rfl
  · refine ⟨fun key => (source.find?_takeAll names key).1,
      fun key => (source.find?_takeAll names key).2, ?_, exists_decode_eq_ok_iff ..,
      decode_eq_ok_iff names fixed entry source, fun e => ?_⟩
    · have hothers : (source.takeAll names).2.entries =
          source.entries.filter fun m => !names.contains m.1 := by rw [source.takeAll_eq]; rfl
      rw [hothers, List.filter_map]
      simp [Function.comp_def]
    · rw [decode_eq_error_iff]
      simp only [decodeEntries_entries_eq_error_iff]
      -- The dynamic part is read in the order of the keys, so its first failure is at the smallest
      -- one.
      refine or_congr_right (and_congr_right fun _ => ⟨?_, ?_⟩)
      · rintro ⟨fault, ⟨key, v, cause, hfind, hcause, hsmaller, rfl⟩, rfl⟩
        exact ⟨key, v, cause, hfind, hcause, hsmaller, rfl⟩
      · rintro ⟨key, v, cause, hfind, hcause, hsmaller, rfl⟩
        exact ⟨_, ⟨key, v, cause, hfind, hcause, hsmaller, rfl⟩, rfl⟩
  -- Decoders that keep everything show that the two parts overlap nowhere and cover all.
  · let parts := source.takeAll names
    refine ⟨⟨parts.1.entries, parts.2⟩, (decode_eq_ok_iff ..).2 ⟨rfl, ?_⟩, ?_⟩
    · exact List.forall₂_same.2 fun m _ => ⟨rfl, rfl⟩
    · have hparts : parts = (source.restrict names.contains,
          source.restrict fun key => !names.contains key) := source.takeAll_eq names
      rw [hparts]
      exact source.ofList_restrict_append names.contains

end MixedRecord
end FirewallProbe
