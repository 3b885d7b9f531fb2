import Mathlib.Data.List.Basic
import Mathlib.Data.List.Nodup

/-!
# The first member for each key

`l.firstOfEach key` keeps of the members with one key the first.  It says without any bookkeeping
what a loop does that remembers the keys it has seen.

## Key results

- `nodup_firstOfEach` / `firstOfEach_sublist`: every key is left once, and the order is kept
- `mem_firstOfEach_of_not_mem`: a member whose key no earlier member has is kept
- `filter_firstOfEach`: a choice by key commutes with keeping the first members
- `filter_key_eq_singleton`: with distinct keys, a key finds its member
- `filter_flatMap_blocks`: a choice of members that takes whole blocks
- `firstOfEach_flatMap`: blocks with equal or disjoint keys are kept or dropped as a whole
-/

namespace List

section

variable {α β κ ι : Type*} [DecidableEq κ] [DecidableEq ι]

/-- Of the members with one `key` the first. -/
def firstOfEach (key : α → κ) : List α → List α
  | [] => []
  | a :: rest => a :: (firstOfEach key rest).filter fun b => key b ≠ key a

@[simp] theorem firstOfEach_nil (key : α → κ) : firstOfEach key [] = [] := rfl

theorem firstOfEach_cons (key : α → κ) (a : α) (rest : List α) :
    firstOfEach key (a :: rest) = a :: (firstOfEach key rest).filter fun b => key b ≠ key a := rfl

/-- `firstOfEach` drops members and keeps the order. -/
theorem firstOfEach_sublist (key : α → κ) (l : List α) : (l.firstOfEach key).Sublist l := by
  induction l with
  | nil => exact Sublist.slnil
  | cons a rest ih => exact (filter_sublist.trans ih).cons_cons a

theorem mem_of_mem_firstOfEach {key : α → κ} {l : List α} {a : α} (h : a ∈ l.firstOfEach key) :
    a ∈ l :=
  (firstOfEach_sublist key l).subset h

/-- `firstOfEach` leaves every key at most once. -/
theorem nodup_firstOfEach (key : α → κ) (l : List α) : ((l.firstOfEach key).map key).Nodup := by
  induction l with
  | nil => exact nodup_nil
  | cons a rest ih =>
    rw [firstOfEach_cons, map_cons, nodup_cons]
    refine ⟨?_, ?_⟩
    · intro h
      obtain ⟨b, hb, hkey⟩ := mem_map.1 h
      have hne := (mem_filter.1 hb).2
      simp [hkey] at hne
    · exact ih.sublist (filter_sublist.map key)

/-- A choice `p` that depends on the key alone may be made before `firstOfEach` or after it. -/
theorem filter_firstOfEach (key : α → κ) (p : κ → Bool) (l : List α) :
    (l.firstOfEach key).filter (fun a => p (key a)) =
      (l.filter fun a => p (key a)).firstOfEach key := by
  induction l with
  | nil => rfl
  | cons a rest ih =>
    rw [firstOfEach_cons]
    cases hp : p (key a) with
    | true =>
      rw [filter_cons, if_pos hp, filter_cons, if_pos hp, firstOfEach_cons, ← ih]
      simp only [filter_filter, Bool.and_comm]
    | false =>
      have hn : ¬p (key a) = true := by simp [hp]
      rw [filter_cons, if_neg hn, filter_cons, if_neg hn, ← ih, filter_filter]
      -- What the choice keeps has another key than the member it drops.
      refine filter_congr fun b _ => ?_
      by_cases hb : key b = key a
      · simp [hb, hp]
      · simp [hb]

/-- Of `ys`, `firstOfEach` keeps nothing that has a key of `xs`. -/
theorem firstOfEach_append (key : α → κ) (xs ys : List α) :
    (xs ++ ys).firstOfEach key =
      xs.firstOfEach key ++ (ys.filter fun y => key y ∉ xs.map key).firstOfEach key := by
  induction xs with
  | nil => simp
  | cons x xs ih =>
    rw [cons_append, firstOfEach_cons, firstOfEach_cons, ih, filter_append, cons_append]
    congr 2
    rw [filter_firstOfEach key (fun k => k ≠ key x), filter_filter]
    congr 1
    refine filter_congr fun y _ => ?_
    simp

/-- `firstOfEach` keeps `a` if no member `before` it has its key. -/
theorem mem_firstOfEach_of_not_mem {key : α → κ} {before after : List α} {a : α}
    (h : key a ∉ before.map key) : a ∈ (before ++ a :: after).firstOfEach key := by
  rw [firstOfEach_append, filter_cons_of_pos (by simpa using h)]
  exact mem_append_right _ (mem_cons_self)

/-- `firstOfEach` loses no key. -/
theorem exists_mem_firstOfEach {key : α → κ} {l : List α} {a : α} (h : a ∈ l) :
    ∃ b ∈ l.firstOfEach key, key b = key a := by
  induction l with
  | nil => simp at h
  | cons c rest ih =>
    by_cases hc : key c = key a
    · exact ⟨c, mem_cons_self, hc⟩
    · have ha : a ∈ rest := by
        rcases mem_cons.1 h with rfl | ha
        · exact absurd rfl hc
        · exact ha
      obtain ⟨b, hb, hkey⟩ := ih ha
      refine ⟨b, mem_cons_of_mem _ (mem_filter.2 ⟨hb, ?_⟩), hkey⟩
      simpa [hkey] using Ne.symm hc

/-- `firstOfEach` drops nothing where no key stands twice. -/
theorem firstOfEach_eq_self {key : α → κ} {l : List α} (h : (l.map key).Nodup) :
    l.firstOfEach key = l := by
  induction l with
  | nil => rfl
  | cons a rest ih =>
    rw [map_cons, nodup_cons] at h
    rw [firstOfEach_cons, ih h.2, filter_eq_self.2]
    intro b hb
    have : key b ≠ key a := fun he => h.1 (he ▸ mem_map_of_mem hb)
    simpa using this

/-- Where no key stands twice, `a` is the only member with its key. -/
theorem filter_key_eq_singleton {key : α → κ} {l : List α} (h : (l.map key).Nodup) {a : α}
    (ha : a ∈ l) : (l.filter fun b => key b = key a) = [a] := by
  obtain ⟨before, after, rfl⟩ := append_of_mem ha
  rw [map_append, map_cons, nodup_middle, nodup_cons, ← map_append] at h
  have hother : ∀ b ∈ before ++ after, ¬key b = key a := fun b hb heq =>
    h.1 (heq ▸ mem_map_of_mem hb)
  have hbefore : (before.filter fun b => key b = key a) = [] :=
    filter_eq_nil_iff.2 fun b hb => by simpa using hother b (mem_append_left _ hb)
  have hafter : (after.filter fun b => key b = key a) = [] :=
    filter_eq_nil_iff.2 fun b hb => by simpa using hother b (mem_append_right _ hb)
  rw [filter_append, filter_cons_of_pos (by simp), hbefore, hafter, nil_append]

/-- Keys may be renamed by `name` if it tells apart the keys that occur. -/
theorem firstOfEach_comp {key : α → κ} {name : κ → ι} {l : List α}
    (h : ∀ a ∈ l, ∀ b ∈ l, name (key a) = name (key b) → key a = key b) :
    l.firstOfEach (fun a => name (key a)) = l.firstOfEach key := by
  induction l with
  | nil => rfl
  | cons a rest ih =>
    have hrest := ih fun x hx y hy => h x (mem_cons_of_mem _ hx) y (mem_cons_of_mem _ hy)
    rw [firstOfEach_cons, firstOfEach_cons, hrest]
    congr 1
    refine filter_congr fun b hb => ?_
    have hb' : b ∈ a :: rest := mem_cons_of_mem _ (mem_of_mem_firstOfEach hb)
    have : name (key b) = name (key a) ↔ key b = key a :=
      ⟨h b hb' a mem_cons_self, fun he => he ▸ rfl⟩
    simp [this]

/-- A choice `p` of members that takes whole blocks is a choice `q` of blocks. -/
theorem filter_flatMap_blocks {p : α → Bool} {q : β → Bool} {block : β → List α} {bs : List β}
    (h : ∀ b ∈ bs, (block b).filter p = if q b then block b else []) :
    (bs.flatMap block).filter p = (bs.filter q).flatMap block := by
  induction bs with
  | nil => rfl
  | cons b rest ih =>
    rw [forall_mem_cons] at h
    rw [flatMap_cons, filter_append, h.1, ih h.2]
    cases hq : q b with
    | true => rw [if_pos rfl, filter_cons_of_pos hq, flatMap_cons]
    | false =>
      have hn : ¬q b = true := by simp [hq]
      rw [if_neg (by simp), filter_cons_of_neg hn, nil_append]

/-- Members `b` whose `block` is empty may be left out of a `flatMap`. -/
theorem flatMap_filter_of_eq_nil {p : β → Bool} {block : β → List α} {bs : List β}
    (h : ∀ b ∈ bs, p b = false → block b = []) :
    (bs.filter p).flatMap block = bs.flatMap block := by
  induction bs with
  | nil => rfl
  | cons b rest ih =>
    rw [forall_mem_cons] at h
    rw [filter_cons, flatMap_cons, ← ih h.2]
    cases hp : p b with
    | true => rw [if_pos rfl, flatMap_cons]
    | false => rw [if_neg (by simp), h.1 hp, nil_append]

/-- Blocks that have the same keys when they have the same `label`, and no common key otherwise, are
kept or dropped by `firstOfEach` as a whole: the first block with each label stays. -/
theorem firstOfEach_flatMap {key : α → κ} {label : β → ι} {block : β → List α} (bs : List β)
    (hnodup : ∀ b ∈ bs, ((block b).map key).Nodup)
    (hsame : ∀ b ∈ bs, ∀ c ∈ bs, label b = label c → (block b).map key = (block c).map key)
    (hother : ∀ b ∈ bs, ∀ c ∈ bs, label b ≠ label c → ∀ k ∈ (block b).map key,
      k ∉ (block c).map key) :
    (bs.flatMap block).firstOfEach key = (bs.firstOfEach label).flatMap block := by
  induction bs with
  | nil => rfl
  | cons b rest ih =>
    have hb : b ∈ b :: rest := mem_cons_self
    have hih := ih (fun x hx => hnodup x (mem_cons_of_mem _ hx))
      (fun x hx y hy => hsame x (mem_cons_of_mem _ hx) y (mem_cons_of_mem _ hy))
      (fun x hx y hy => hother x (mem_cons_of_mem _ hx) y (mem_cons_of_mem _ hy))
    rw [flatMap_cons, firstOfEach_append, firstOfEach_eq_self (hnodup b hb), firstOfEach_cons,
      flatMap_cons, ← filter_firstOfEach key (fun k => k ∉ (block b).map key), hih]
    congr 1
    -- Of a later block either nothing or everything is left.
    refine filter_flatMap_blocks fun c hc => ?_
    have hc' : c ∈ b :: rest := mem_cons_of_mem _ (mem_of_mem_firstOfEach hc)
    by_cases hlabel : label c = label b
    · rw [if_neg (by simpa using hlabel), filter_eq_nil_iff]
      intro a ha
      have : key a ∈ (block b).map key := hsame c hc' b hb hlabel ▸ mem_map_of_mem ha
      simpa using this
    · rw [if_pos (by simpa using hlabel), filter_eq_self]
      intro a ha
      have : key a ∉ (block b).map key := hother c hc' b hb hlabel _ (mem_map_of_mem ha)
      simpa using this

end

end List
