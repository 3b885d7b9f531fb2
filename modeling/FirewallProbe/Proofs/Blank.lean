import Mathlib.Data.List.DropRight
import Mathlib.Data.List.TakeWhile
import FirewallProbe.Text.Blank

/-!
# Blanks around a text

Trimming takes blanks from both ends.  It leaves nothing of a text if and only if the text has
nothing but blanks, and leaves a text as it is if and only if it has no blank at either end.

## Key results

- `Text.dropTrailing_eq_nil_iff` / `Text.trimChars_eq_nil_iff`: when nothing is left
- `Text.dropTrailing_eq_self_iff` / `Text.trimChars_eq_self_iff`: when nothing is taken
-/

namespace FirewallProbe
namespace Text

/-- There is a first character, and it satisfies `p`. -/
def StartsIn (p : Char → Bool) (cs : List Char) : Prop := ∃ c, cs.head? = some c ∧ p c = true

/-- There is a last character, and it satisfies `p`. -/
def EndsIn (p : Char → Bool) (cs : List Char) : Prop := ∃ c, cs.getLast? = some c ∧ p c = true

instance (p : Char → Bool) (cs : List Char) : Decidable (StartsIn p cs) :=
  decidable_of_iff (cs.head?.any p = true) (by simp [StartsIn, Option.any_eq_true])

instance (p : Char → Bool) (cs : List Char) : Decidable (EndsIn p cs) :=
  decidable_of_iff (cs.getLast?.any p = true) (by simp [EndsIn, Option.any_eq_true])

/-- `dropTrailing` leaves nothing of characters that all satisfy `p`, and of no others. -/
theorem dropTrailing_eq_nil_iff (p : Char → Bool) (cs : List Char) :
    dropTrailing p cs = [] ↔ ∀ c ∈ cs, p c = true := by
  simp [dropTrailing, List.dropWhile_eq_nil_iff]

/-- `trimChars` leaves nothing of blanks, and of nothing else. -/
theorem trimChars_eq_nil_iff (cs : List Char) :
    trimChars cs = [] ↔ ∀ c ∈ cs, isBlank c = true := by
  rw [trimChars, dropTrailing_eq_nil_iff]
  constructor
  · intro h c hc
    rw [← List.takeWhile_append_dropWhile (p := isBlank) (l := cs), List.mem_append] at hc
    -- What is taken at the front is blank, and what is left is so by assumption.
    exact hc.elim List.mem_takeWhile_imp (h c)
  · exact fun h c hc => h c ((List.dropWhile_sublist _).mem hc)

/-! ## Runs at the end -/

section

variable {p : Char → Bool}

/-- `dropTrailing` is `List.rdropWhile` of the library. -/
theorem dropTrailing_eq_rdropWhile (cs : List Char) : dropTrailing p cs = cs.rdropWhile p := rfl

/-- `dropTrailing` leaves a prefix. -/
theorem dropTrailing_isPrefix (cs : List Char) : dropTrailing p cs <+: cs :=
  List.rdropWhile_prefix p cs

/-- `dropTrailing` changes nothing unless the last character satisfies `p`. -/
theorem dropTrailing_eq_self_iff (cs : List Char) : dropTrailing p cs = cs ↔ ¬EndsIn p cs := by
  rw [dropTrailing_eq_rdropWhile, List.rdropWhile_eq_self_iff]
  constructor
  · rintro h ⟨c, hlast, hc⟩
    obtain ⟨front, rfl⟩ := List.getLast?_eq_some_iff.1 hlast
    exact h (by simp) (by simpa using hc)
  · intro h hne hc
    exact h ⟨_, List.getLast?_eq_some_getLast hne, hc⟩

/-- What `dropTrailing` leaves does not end in a character that satisfies `p`. -/
theorem not_endsIn_dropTrailing (cs : List Char) : ¬EndsIn p (dropTrailing p cs) :=
  (dropTrailing_eq_self_iff _).1 (List.rdropWhile_idempotent p cs)

/-- `dropTrailing` goes on before a tail that it drops as a whole. -/
theorem dropTrailing_append_of_all {ys : List Char} (h : ∀ c ∈ ys, p c = true) (xs : List Char) :
    dropTrailing p (xs ++ ys) = dropTrailing p xs := by
  have hreverse : ∀ c ∈ ys.reverse, p c = true := fun c hc => h c (List.mem_reverse.1 hc)
  rw [dropTrailing, List.reverse_append, List.dropWhile_append_of_pos hreverse, dropTrailing]

/-- `dropTrailing` stops within a tail of which it leaves something. -/
theorem dropTrailing_append_of_ne_nil {ys : List Char} (h : dropTrailing p ys ≠ [])
    (xs : List Char) : dropTrailing p (xs ++ ys) = xs ++ dropTrailing p ys := by
  have hreverse : ys.reverse.dropWhile p ≠ [] := by simpa [dropTrailing] using h
  rw [dropTrailing, List.reverse_append, List.dropWhile_append,
    if_neg (by simpa [List.isEmpty_iff] using hreverse), List.reverse_append, List.reverse_reverse,
    dropTrailing]

end

/-! ## Trimmed texts -/

/-- `dropWhile` changes nothing unless the first character satisfies `p`. -/
theorem dropWhile_eq_self_iff_startsIn {p : Char → Bool} (cs : List Char) :
    cs.dropWhile p = cs ↔ ¬StartsIn p cs := by
  cases cs with
  | nil => simp [StartsIn]
  | cons c rest => simp [StartsIn, List.dropWhile_eq_self_iff]

/-- `trimChars` changes nothing if there is no blank at either end. -/
theorem trimChars_eq_self_iff (cs : List Char) :
    trimChars cs = cs ↔ ¬StartsIn isBlank cs ∧ ¬EndsIn isBlank cs := by
  rw [← dropWhile_eq_self_iff_startsIn, ← dropTrailing_eq_self_iff, trimChars]
  constructor
  · intro h
    -- Neither of the two steps makes a text longer, so neither of them takes anything.
    have hfront := dropTrailing_isPrefix (p := isBlank) (cs.dropWhile isBlank)
    have hsuffix := List.dropWhile_suffix (l := cs) isBlank
    rw [h] at hfront
    have hfirst := hsuffix.eq_of_length_le hfront.length_le
    rw [hfirst] at h
    exact ⟨hfirst, h⟩
  · rintro ⟨hfirst, hlast⟩
    rw [hfirst, hlast]

end Text
end FirewallProbe
