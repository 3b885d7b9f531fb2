import Mathlib.Data.Nat.Digits.Defs
import FirewallProbe.Firmware

/-!
# Reading firmware versions

A version is the letter `v` and two numbers, each with a point behind it; what follows the second
point does not matter.  A number is written in decimal digits and fits in 32 bits, with any number
of zeros in front.  No digit is a point, so the first two points of a text end its numbers.

## Key results

- `Firmware.splitAtPoint?_eq_some_iff`: what stands before the first point
- `Firmware.readNumber?_eq_some_iff`: the texts that are read as a number
- `Firmware.parse?_eq_some_iff`: the texts that are read as a version
- `Firmware.shows_toText`: a version as it is written
- `Firmware.version_grammar`: all of this, and that no other text is read
-/

namespace FirewallProbe
namespace Firmware

/-! ## Numbers -/

/-- The number that decimal digits stand for: the last one counts ones, the one before it tens, and
so on. -/
def decimalValue (digits : List Char) : ℕ :=
  Nat.ofDigits 10 (digits.reverse.map fun c => c.toNat - '0'.toNat)

/-- A number that is written in decimal digits, with any number of zeros in front. -/
structure IsDecimal (text : String) (n : ℕ) : Prop where
  nonempty : text ≠ ""
  digits : ∀ c ∈ text.toList, '0' ≤ c ∧ c ≤ '9'
  value : decimalValue text.toList = n

/-- Reading `digits` from the left, as `Nat.ofDigitChars` does, comes to the same as counting from
the right. -/
theorem decimalValue_eq_ofDigitChars (digits : List Char) :
    decimalValue digits = Nat.ofDigitChars 10 digits 0 := by
  rw [decimalValue, Nat.ofDigits_eq_foldr, List.foldr_map, List.foldr_reverse,
    Nat.ofDigitChars_eq_foldl]
  congr 1
  funext n c
  exact Nat.add_comm _ _

/-- `Char.isDigit` holds of the ten digits of ASCII and of no other. -/
theorem isDigit_iff (c : Char) : c.isDigit = true ↔ '0' ≤ c ∧ c ≤ '9' := by
  simp [Char.isDigit, Char.le_def]

/-- `readNumber?` reads a number of 32 bits if `text` is that number in decimal digits and nothing
else. -/
theorem readNumber?_eq_some_iff (text : String) (n : UInt32) :
    readNumber? text.toList = some n ↔ IsDecimal text n.toNat := by
  have hvalue : text.toList.foldl (fun n c => 10 * n + (c.toNat - '0'.toNat)) 0 =
      decimalValue text.toList := by
    rw [decimalValue_eq_ofDigitChars, Nat.ofDigitChars_eq_foldl]
  rw [readNumber?, hvalue]
  constructor
  · intro h
    split at h
    next => cases h
    next hdigits =>
      simp only [Bool.or_eq_true, Bool.not_eq_true', not_or, Bool.not_eq_true, Bool.not_eq_false,
        List.isEmpty_eq_false_iff, List.all_eq_true, isDigit_iff] at hdigits
      dsimp only at h
      split at h
      next hfits =>
        refine ⟨fun hempty => hdigits.1 (by rw [hempty]; rfl), hdigits.2, ?_⟩
        rw [← Option.some.inj h, UInt32.toNat_ofNat_of_lt' hfits]
      next => cases h
  · rintro ⟨hnonempty, hdigits, hn⟩
    have hempty : text.toList.isEmpty = false := by simpa using hnonempty
    have hall : text.toList.all Char.isDigit = true :=
      List.all_eq_true.2 fun c hc => (isDigit_iff c).2 (hdigits c hc)
    -- The value is that of a number of 32 bits, however many zeros stand in front.
    have hfits : decimalValue text.toList < 0x100000000 := hn ▸ n.toNat_lt
    rw [hempty, hall, if_neg (by decide), if_pos hfits, hn, UInt32.ofNat_toNat]

/-- `Nat.repr` writes a number in decimal digits. -/
theorem isDecimal_repr (n : ℕ) : IsDecimal n.repr n where
  nonempty := by
    rw [← String.toList_inj.ne, Nat.toList_repr]
    exact Nat.toDigits_ne_nil
  digits c hc := by
    rw [Nat.toList_repr] at hc
    exact (isDigit_iff c).1 (Nat.isDigit_of_mem_toDigits (by decide) (by decide) hc)
  value := by
    rw [Nat.toList_repr, decimalValue_eq_ofDigitChars,
      Nat.ofDigitChars_toDigits (by decide) (by decide)]

/-- No digit is a point, so `splitAtPoint?` does not split a number. -/
theorem IsDecimal.point_not_mem {text : String} {n : ℕ} (h : IsDecimal text n) :
    '.' ∉ text.toList := fun hmem => absurd (h.digits '.' hmem) (by decide)

/-! ## Points -/

/-- `splitAtPoint?` splits at the first point: `before` has none. -/
theorem splitAtPoint?_eq_some_iff (cs before after : List Char) :
    splitAtPoint? cs = some (before, after) ↔ cs = before ++ '.' :: after ∧ '.' ∉ before := by
  induction cs generalizing before with
  | nil => simp [splitAtPoint?]
  | cons c rest ih =>
    rw [splitAtPoint?]
    split
    next hpoint =>
      subst hpoint
      cases before with
      | nil => simp [eq_comm]
      | cons d front =>
        -- The point would stand in the part that must have none.
        refine ⟨fun h => by simp at h, fun ⟨heq, hnot⟩ => ?_⟩
        obtain ⟨rfl, -⟩ := List.cons.inj heq
        exact absurd List.mem_cons_self hnot
    next hother =>
      cases before with
      | nil => simp [hother]
      | cons d front =>
        rw [List.cons_append, List.cons.injEq, List.mem_cons, not_or, Option.map_eq_some_iff]
        constructor
        · rintro ⟨⟨front', after'⟩, hsplit, heq⟩
          obtain ⟨hfront, rfl⟩ := Prod.mk.inj heq
          obtain ⟨rfl, rfl⟩ := List.cons.inj hfront
          obtain ⟨hrest, hnot⟩ := (ih front').1 hsplit
          exact ⟨⟨rfl, hrest⟩, Ne.symm hother, hnot⟩
        · rintro ⟨⟨rfl, hrest⟩, -, hnot⟩
          exact ⟨(front, after), (ih front).2 ⟨hrest, hnot⟩, rfl⟩

/-! ## Versions -/

/-- A text that shows a version: the letter `v` and two numbers, each with a point behind it. -/
def Shows (text : String) (major minor : ℕ) : Prop :=
  ∃ first second rest : String, text = "v" ++ first ++ "." ++ second ++ "." ++ rest ∧
    IsDecimal first major ∧ IsDecimal second minor

/-- `parse?` reads exactly the version that `text` shows. -/
theorem parse?_eq_some_iff (text : String) (v : Firmware) :
    parse? text = some v ↔ Shows text v.major.toNat v.minor.toNat := by
  constructor
  · intro h
    rw [parse?] at h
    split at h
    next rest hv =>
      -- Both splits and both numbers succeeded; their parts are the text in front of the rest.
      obtain ⟨⟨major, rest'⟩, hmajor, h⟩ := Option.bind_eq_some_iff.1 h
      obtain ⟨⟨minor, rest''⟩, hminor, h⟩ := Option.bind_eq_some_iff.1 h
      obtain ⟨first, hfirst, h⟩ := Option.bind_eq_some_iff.1 h
      obtain ⟨second, hsecond, h⟩ := Option.bind_eq_some_iff.1 h
      obtain rfl := Option.some.inj h
      obtain ⟨rfl, -⟩ := (splitAtPoint?_eq_some_iff _ _ _).1 hmajor
      obtain ⟨rfl, -⟩ := (splitAtPoint?_eq_some_iff _ _ _).1 hminor
      refine ⟨String.ofList major, String.ofList minor, String.ofList rest'', ?_, ?_, ?_⟩
      · rw [← String.toList_inj, hv]
        simp
      · rw [← readNumber?_eq_some_iff, String.toList_ofList]
        exact hfirst
      · rw [← readNumber?_eq_some_iff, String.toList_ofList]
        exact hsecond
    next => cases h
  · rintro ⟨first, second, rest, rfl, hfirst, hsecond⟩
    -- A number has no point, so the text is split where it was put together.
    have htext : ("v" ++ first ++ "." ++ second ++ "." ++ rest).toList =
        'v' :: (first.toList ++ '.' :: (second.toList ++ '.' :: rest.toList)) := by
      simp
    have hmajor : splitAtPoint? (first.toList ++ '.' :: (second.toList ++ '.' :: rest.toList)) =
        some (first.toList, second.toList ++ '.' :: rest.toList) :=
      (splitAtPoint?_eq_some_iff _ _ _).2 ⟨rfl, hfirst.point_not_mem⟩
    have hminor : splitAtPoint? (second.toList ++ '.' :: rest.toList) =
        some (second.toList, rest.toList) :=
      (splitAtPoint?_eq_some_iff _ _ _).2 ⟨rfl, hsecond.point_not_mem⟩
    rw [parse?, htext]
    simp [hmajor, hminor, (readNumber?_eq_some_iff _ _).2 hfirst,
      (readNumber?_eq_some_iff _ _).2 hsecond]

/-- What `toText` writes shows the version, whatever comes behind a point after it. -/
theorem shows_toText (v : Firmware) (rest : String) :
    Shows (v.toText ++ "." ++ rest) v.major.toNat v.minor.toNat :=
  ⟨v.major.toNat.repr, v.minor.toNat.repr, rest, by rw [toText]; rfl, isDecimal_repr _,
    isDecimal_repr _⟩

/-- `parse?` reads the versions that a text `Shows` with numbers of 32 bits, and nothing where there
is none.  What `toText` writes is read again, with any `rest` behind a point. -/
theorem version_grammar :
    (∀ (text : String) (v : Firmware),
      parse? text = some v ↔ Shows text v.major.toNat v.minor.toNat) ∧
    (∀ text : String, parse? text = none ↔
      ¬∃ major minor : ℕ, major < 2 ^ 32 ∧ minor < 2 ^ 32 ∧ Shows text major minor) ∧
    ∀ (v : Firmware) (rest : String), parse? (v.toText ++ "." ++ rest) = some v := by
  refine ⟨parse?_eq_some_iff, fun text => ?_, fun v rest =>
    (parse?_eq_some_iff _ _).2 (shows_toText v rest)⟩
  rw [Option.eq_none_iff_forall_ne_some]
  constructor
  · rintro hnone ⟨major, minor, hmajor, hminor, hshown⟩
    refine hnone ⟨UInt32.ofNat major, UInt32.ofNat minor⟩ ((parse?_eq_some_iff _ _).2 ?_)
    rwa [UInt32.toNat_ofNat_of_lt' hmajor, UInt32.toNat_ofNat_of_lt' hminor]
  · intro hnot v hread
    exact hnot ⟨_, _, v.major.toNat_lt, v.minor.toNat_lt, (parse?_eq_some_iff _ _).1 hread⟩

/-- Zeros in front do not count, and the largest number of 32 bits is the last one that is read. -/
example : parse? "v007.4294967295." = some ⟨7, 4294967295⟩ ∧ parse? "v7.4294967296.1" = none := by
  decide +kernel

end Firmware
end FirewallProbe
