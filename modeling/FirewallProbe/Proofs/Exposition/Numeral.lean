import FirewallProbe.Proofs.Binary64.Shortest
import Mathlib.Data.List.TakeWhile

/-!
# Decimal numerals

A numeral is an optional minus sign, digits, and more digits behind a point where there are any; it
has no exponent.  Its text determines it, and each decimal that is written without an exponent is a
numeral of the value of that decimal.

## Key results

- `Numeral.chars_injective`: a text is read as one numeral only
- `Numeral.mem_chars`: the characters of a numeral
- `Numeral.chars_ofDecimal`, `Numeral.value_ofDecimal`: a decimal as a numeral, its text and value
-/

namespace FirewallProbe
namespace Exposition

open Binary64 (signed)

/-! ## Texts and values -/

/-- A decimal numeral without an exponent: its sign, the digits before the point, and those behind
it. -/
structure Numeral where
  negative : Bool
  whole : List Char
  fraction : List Char
  whole_ne_nil : whole ≠ []
  isDigit_whole : ∀ c ∈ whole, c.isDigit = true
  isDigit_fraction : ∀ c ∈ fraction, c.isDigit = true

namespace Numeral

/-- The point and the digits behind it, if there are any. -/
def pointChars (n : Numeral) : List Char := if n.fraction = [] then [] else '.' :: n.fraction

/-- The text of a numeral. -/
def chars (n : Numeral) : List Char :=
  Binary64.signChars n.negative ++ (n.whole ++ n.pointChars)

/-- The number that a numeral stands for. -/
def value (n : Numeral) : ℚ :=
  signed n.negative
    (Nat.ofDigitChars 10 (n.whole ++ n.fraction) 0 / 10 ^ n.fraction.length)

/-- What stands behind the sign starts with a digit, and so with no minus sign. -/
private theorem head?_unsigned (n : Numeral) : (n.whole ++ n.pointChars).head? ≠ some '-' := by
  obtain ⟨c, rest, hwhole⟩ := List.exists_cons_of_ne_nil n.whole_ne_nil
  have hdigit := n.isDigit_whole c (hwhole ▸ List.mem_cons_self)
  rw [hwhole, List.cons_append, List.head?_cons, ne_eq, Option.some.injEq]
  rintro rfl
  exact absurd hdigit (by decide)

/-- `signChars` is told from what follows it. -/
private theorem signChars_append_inj {a b : Bool} {cs ds : List Char} (hcs : cs.head? ≠ some '-')
    (hds : ds.head? ≠ some '-')
    (h : Binary64.signChars a ++ cs = Binary64.signChars b ++ ds) : a = b ∧ cs = ds := by
  cases a <;> cases b
  · exact ⟨rfl, h⟩
  · exact absurd (congrArg List.head? h) hcs
  · exact absurd (congrArg List.head? h.symm) hds
  · exact ⟨rfl, (List.cons.inj h).2⟩

/-- The digits before the point go on up to the point or to the end. -/
private theorem takeWhile_unsigned (n : Numeral) :
    (n.whole ++ n.pointChars).takeWhile Char.isDigit = n.whole := by
  rw [List.takeWhile_append_of_pos n.isDigit_whole, List.append_right_eq_self, pointChars]
  split_ifs
  · rfl
  · exact List.takeWhile_cons_of_neg (by decide)

/-- Behind the digits before the point stand `pointChars`. -/
private theorem dropWhile_unsigned (n : Numeral) :
    (n.whole ++ n.pointChars).dropWhile Char.isDigit = n.pointChars := by
  rw [List.dropWhile_append_of_pos n.isDigit_whole, pointChars]
  split_ifs
  · rfl
  · exact List.dropWhile_cons_of_neg (by decide)

private theorem tail_pointChars (n : Numeral) : n.pointChars.tail = n.fraction := by
  unfold pointChars
  split_ifs with h
  · exact h.symm
  · rfl

/-- `chars` writes different numerals differently, so that a text is read as one numeral only. -/
theorem chars_injective : Function.Injective chars := by
  intro n n' h
  obtain ⟨hnegative, hunsigned⟩ := signChars_append_inj n.head?_unsigned n'.head?_unsigned h
  have hwhole : n.whole = n'.whole := by
    rw [← n.takeWhile_unsigned, hunsigned, n'.takeWhile_unsigned]
  have hfraction : n.fraction = n'.fraction := by
    rw [← n.tail_pointChars, ← n.dropWhile_unsigned, hunsigned, n'.dropWhile_unsigned,
      n'.tail_pointChars]
  cases n
  cases n'
  simp_all

theorem chars_ne_nil (n : Numeral) : n.chars ≠ [] := by
  simp [chars, n.whole_ne_nil]

/-- `chars` are digits, a minus sign and a point. -/
theorem mem_chars {n : Numeral} {c : Char} (h : c ∈ n.chars) :
    c = '-' ∨ c = '.' ∨ c.isDigit = true := by
  simp only [chars, pointChars, Binary64.signChars, List.mem_append] at h
  rcases h with h | h | h
  · split_ifs at h
    · exact .inl (List.mem_singleton.1 h)
    · simp at h
  · exact .inr (.inr (n.isDigit_whole c h))
  · split_ifs at h
    · simp at h
    · rcases List.mem_cons.1 h with rfl | h
      · exact .inr (.inl rfl)
      · exact .inr (.inr (n.isDigit_fraction c h))

end Numeral

/-! ## Decimals as numerals -/

/-- `digitChars` writes digits only. -/
private theorem isDigit_of_mem_digitChars {n : ℕ} {c : Char} (h : c ∈ Binary64.digitChars n) :
    c.isDigit = true :=
  Nat.isDigit_of_mem_toDigits (by decide) (by decide) h

private theorem isDigit_of_mem_zeros {n : ℕ} {c : Char} (h : c ∈ Binary64.zeros n) :
    c.isDigit = true := by
  rw [List.eq_of_mem_replicate h]
  decide

/-- `digitChars` is read back by `Nat.ofDigitChars`. -/
private theorem ofDigitChars_digitChars (n : ℕ) :
    Nat.ofDigitChars 10 (Binary64.digitChars n) 0 = n :=
  Nat.ofDigitChars_ten_toDigits

namespace Numeral

/-- A whole number, given by its digits and the number of zeros behind them. -/
def withZeros (negative : Bool) (digits count : ℕ) : Numeral where
  negative := negative
  whole := Binary64.digitChars digits ++ Binary64.zeros count
  fraction := []
  whole_ne_nil := by
    have hne : Binary64.digitChars digits ≠ [] := Nat.toDigits_ne_nil
    simp [hne]
  isDigit_whole _ h :=
    (List.mem_append.1 h).elim isDigit_of_mem_digitChars isDigit_of_mem_zeros
  isDigit_fraction _ h := absurd h List.not_mem_nil

/-- `withZeros` is written as the digits and then the zeros. -/
theorem chars_withZeros (negative : Bool) (digits count : ℕ) :
    (withZeros negative digits count).chars =
      Binary64.signChars negative ++ (Binary64.digitChars digits ++ Binary64.zeros count) := by
  simp [chars, pointChars, withZeros]

/-- Every zero behind the digits of `withZeros` is a factor of ten. -/
theorem value_withZeros (negative : Bool) (digits count : ℕ) :
    (withZeros negative digits count).value = signed negative (digits * 10 ^ count) := by
  simp only [value, withZeros, List.append_nil, Nat.ofDigitChars_append, ofDigitChars_digitChars,
    Binary64.zeros, Nat.ofDigitChars_replicate_zero, List.length_nil, pow_zero, div_one]
  push_cast
  rw [mul_comm]

/-- The digits of a number, with zeros in front if there is none before the point otherwise. -/
private def padded (digits places : ℕ) : List Char :=
  Binary64.zeros (places + 1 - (Binary64.digitChars digits).length) ++ Binary64.digitChars digits

private theorem isDigit_of_mem_padded {digits places : ℕ} {c : Char}
    (h : c ∈ padded digits places) : c.isDigit = true :=
  (List.mem_append.1 h).elim isDigit_of_mem_zeros isDigit_of_mem_digitChars

/-- `padded` has a digit before the point. -/
private theorem lt_length_padded (digits places : ℕ) : places < (padded digits places).length := by
  rw [padded, List.length_append, Binary64.zeros, List.length_replicate]
  omega

/-- A number with a point, given by its digits and the number of places behind the point. -/
def withPoint (negative : Bool) (digits places : ℕ) : Numeral where
  negative := negative
  whole := (padded digits places).take ((padded digits places).length - places)
  fraction := (padded digits places).drop ((padded digits places).length - places)
  whole_ne_nil := by
    have := lt_length_padded digits places
    rw [ne_eq, List.take_eq_nil_iff, not_or, ← List.length_eq_zero_iff]
    omega
  isDigit_whole _ h := isDigit_of_mem_padded (List.mem_of_mem_take h)
  isDigit_fraction _ h := isDigit_of_mem_padded (List.mem_of_mem_drop h)

private theorem length_fraction_withPoint (negative : Bool) (digits places : ℕ) :
    (withPoint negative digits places).fraction.length = places := by
  have := lt_length_padded digits places
  rw [withPoint, List.length_drop]
  omega

/-- `withPoint` is written with a point before the last `places` digits, or with zeros behind the
point where there are not as many digits. -/
theorem chars_withPoint (negative : Bool) (digits : ℕ) {places : ℕ} (hpos : 0 < places) :
    (withPoint negative digits places).chars = Binary64.signChars negative ++
      if places < (Binary64.digitChars digits).length then
        (Binary64.digitChars digits).take ((Binary64.digitChars digits).length - places) ++
          '.' :: (Binary64.digitChars digits).drop ((Binary64.digitChars digits).length - places)
      else '0' :: '.' :: Binary64.zeros (places - (Binary64.digitChars digits).length) ++
        Binary64.digitChars digits := by
  have hfraction : (withPoint negative digits places).fraction ≠ [] := by
    rw [ne_eq, ← List.length_eq_zero_iff, length_fraction_withPoint]
    omega
  rw [chars, pointChars, if_neg hfraction]
  simp only [withPoint, padded]
  generalize Binary64.digitChars digits = ds
  split_ifs with hplaces
  · -- There are digits enough, so no zeros stand in front.
    rw [show places + 1 - ds.length = 0 by omega]
    rfl
  · -- One zero stands before the point.
    have hlength : (Binary64.zeros (places - ds.length) ++ ds).length = places := by
      rw [List.length_append, Binary64.zeros, List.length_replicate]
      omega
    rw [show places + 1 - ds.length = places - ds.length + 1 by omega, Binary64.zeros,
      List.replicate_succ, List.cons_append, List.length_cons, ← Binary64.zeros, hlength,
      Nat.add_sub_cancel_left]
    rfl

/-- Every place behind the point of `withPoint` divides by ten. -/
theorem value_withPoint (negative : Bool) (digits places : ℕ) :
    (withPoint negative digits places).value = signed negative (digits / 10 ^ places) := by
  rw [value, length_fraction_withPoint]
  simp only [withPoint, List.take_append_drop, padded, Nat.ofDigitChars_append, Binary64.zeros,
    Nat.ofDigitChars_replicate_zero, Nat.mul_zero, ofDigitChars_digitChars]

/-- The decimal `d` as a numeral. -/
def ofDecimal (negative : Bool) (d : Binary64.Decimal) : Numeral :=
  if 0 ≤ d.power then withZeros negative d.digits d.power.toNat
  else withPoint negative d.digits (-d.power).toNat

/-- `ofDecimal` keeps the sign. -/
theorem negative_ofDecimal (negative : Bool) (d : Binary64.Decimal) :
    (ofDecimal negative d).negative = negative := by
  unfold ofDecimal
  split_ifs <;> rfl

/-- `ofDecimal` is written as `plainChars` writes a decimal. -/
theorem chars_ofDecimal (negative : Bool) (d : Binary64.Decimal) :
    (ofDecimal negative d).chars = Binary64.signChars negative ++ d.plainChars := by
  simp only [ofDecimal, Binary64.Decimal.plainChars]
  split_ifs with hpower
  · rw [chars_withZeros]
  · rw [chars_withPoint _ _ (by omega), if_pos ‹_›]
  · rw [chars_withPoint _ _ (by omega), if_neg ‹_›]

/-- `ofDecimal` stands for the number that the decimal is. -/
theorem value_ofDecimal (negative : Bool) (d : Binary64.Decimal) :
    (ofDecimal negative d).value = signed negative d.value := by
  unfold ofDecimal Binary64.Decimal.value
  split_ifs with hpower
  · rw [value_withZeros, ← zpow_natCast, Int.toNat_of_nonneg hpower]
  · have hplaces : d.power = -((-d.power).toNat : ℤ) := by omega
    rw [value_withPoint, hplaces, neg_neg, Int.toNat_natCast, zpow_neg, zpow_natCast,
      div_eq_mul_inv]

end Numeral

end Exposition
end FirewallProbe
