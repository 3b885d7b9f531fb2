import FirewallProbe.Proofs.Binary64.Nearest

/-!
# Shortest decimals round to their double

The search for a shortest decimal takes what lies in the rounding interval of a double, given in
whole numbers of quarters of the last place.  The ends of that interval are the midpoints to the
neighbours of the double, so what is found rounds to the double; where nothing is found, the exact
decimal does.

## Key results

- `roundsTo_of_contains`: a decimal in the interval of a double rounds to that double
- `value_exact`: the exact decimal has the value of the double
- `roundsTo_shortest`: the shortest decimal rounds to the double
-/

namespace FirewallProbe
namespace Binary64

/-- The number that a `Decimal` stands for. -/
def Decimal.value (d : Decimal) : ℚ := d.digits * 10 ^ d.power

/-- A power as a fraction, with the base in one of numerator and denominator. -/
private theorem zpow_eq_div (b : ℕ) (hb : b ≠ 0) (n : ℤ) :
    (b : ℚ) ^ n = (Nat.pow b n.toNat : ℕ) / (Nat.pow b (-n).toNat : ℕ) := by
  have hne : (b : ℚ) ≠ 0 := Nat.cast_ne_zero.2 hb
  rw [Nat.pow_eq, Nat.pow_eq, Nat.cast_pow, Nat.cast_pow, ← zpow_natCast, ← zpow_natCast,
    ← zpow_sub₀ hne]
  congr 1
  omega

/-- Decimals and multiples of a power of two are compared as whole numbers, once they have been
brought to one denominator. -/
private theorem exists_common_denominator (scale : ℤ) (d : Decimal) :
    ∃ c : ℚ, 0 < c ∧
      d.value * c = (d.digits * Nat.pow 10 d.power.toNat * Nat.pow 2 (-scale).toNat : ℕ) ∧
      ∀ n : ℕ, n * 2 ^ scale * c =
        (n * (Nat.pow 10 (-d.power).toNat * Nat.pow 2 scale.toNat) : ℕ) := by
  have htwo := zpow_eq_div 2 (by decide) scale
  have hten := zpow_eq_div 10 (by decide) d.power
  have hden : (0 : ℚ) < (Nat.pow 2 (-scale).toNat : ℕ) := by
    exact_mod_cast Nat.pow_pos (by decide)
  have hden' : (0 : ℚ) < (Nat.pow 10 (-d.power).toNat : ℕ) := by
    exact_mod_cast Nat.pow_pos (by decide)
  rw [Nat.cast_ofNat] at htwo hten
  refine ⟨_, mul_pos hden hden', ?_, fun n => ?_⟩
  · rw [Decimal.value, hten, Nat.cast_mul, Nat.cast_mul]
    field_simp
  · rw [htwo, Nat.cast_mul, Nat.cast_mul]
    field_simp

/-- A unit of the last place has four of the quarters in which `Interval.of` is given. -/
private theorem two_zpow_eq_quarters (e : ℤ) :
    (2 : ℚ) ^ e = 4 * 2 ^ (e - 2) ∧ (2 : ℚ) ^ (e - 1) = 2 * 2 ^ (e - 2) := by
  have htwo := two_zpow_sub_one e
  have htwo' := two_zpow_sub_one (e - 1)
  rw [sub_sub, one_add_one_eq_two] at htwo'
  exact ⟨by linarith, htwo'⟩

/-- The lower end of `Interval.of` is the midpoint to the next double below. -/
private theorem Interval.low_of {m : ℕ} (hpos : 0 < m) (e : ℤ) :
    ((Interval.of m e).low : ℚ) * 2 ^ (e - 2) = magnitude m e - gapBelow m e / 2 := by
  obtain ⟨hunit, hhalf⟩ := two_zpow_eq_quarters e
  rw [magnitude, gapBelow, hunit, hhalf]
  by_cases hpow : m = 2 ^ 52 ∧ -1074 < e
  · have hlow : (Interval.of m e).low = 4 * m - 1 := congrArg (4 * m - ·) (if_pos hpow)
    rw [hlow, if_pos hpow, Nat.cast_sub (by omega)]
    push_cast
    ring
  · have hlow : (Interval.of m e).low = 4 * m - 2 := congrArg (4 * m - ·) (if_neg hpow)
    rw [hlow, if_neg hpow, Nat.cast_sub (by omega)]
    push_cast
    ring

/-- The upper end of `Interval.of` is the midpoint to the next double above. -/
private theorem Interval.high_of (m : ℕ) (e : ℤ) :
    ((Interval.of m e).high : ℚ) * 2 ^ (e - 2) = magnitude m e + 2 ^ e / 2 := by
  rw [magnitude, (two_zpow_eq_quarters e).1]
  simp only [Interval.of]
  push_cast
  ring

/-- A decimal that `Interval.of m e` contains rounds to the double with mantissa `m` and exponent
`e`. -/
theorem roundsTo_of_contains {m : ℕ} {e : ℤ} (h : IsCanonical m e) (hpos : 0 < m) {d : Decimal}
    (hd : (Interval.of m e).contains d = true) (negative : Bool) :
    RoundsTo (signed negative d.value) negative m e := by
  -- Both ends of the interval and the decimal become integers over one denominator `c`.
  obtain ⟨c, hc, hvalue, hscaled⟩ := exists_common_denominator (e - 2) d
  have hlow := hscaled (Interval.of m e).low
  have hhigh := hscaled (Interval.of m e).high
  rw [Interval.low_of hpos] at hlow
  rw [Interval.high_of] at hhigh
  unfold Interval.contains at hd
  split at hd
  next hclosed =>
    simp only [Bool.and_eq_true, decide_eq_true_eq] at hd
    have heven : Even m := Nat.even_iff.2 (beq_iff_eq.1 hclosed)
    refine h.roundsTo hpos ?_ ?_ (fun hodd => absurd heven hodd) negative
    · refine le_of_mul_le_mul_right ?_ hc
      rw [hlow, hvalue]
      exact_mod_cast hd.1
    · refine le_of_mul_le_mul_right ?_ hc
      rw [hhigh, hvalue]
      exact_mod_cast hd.2
  next hopen =>
    simp only [Bool.and_eq_true, decide_eq_true_eq] at hd
    have hlow' : magnitude m e - gapBelow m e / 2 < d.value := by
      refine lt_of_mul_lt_mul_right ?_ hc.le
      rw [hlow, hvalue]
      exact_mod_cast hd.1
    have hhigh' : d.value < magnitude m e + 2 ^ e / 2 := by
      refine lt_of_mul_lt_mul_right ?_ hc.le
      rw [hhigh, hvalue]
      exact_mod_cast hd.2
    exact h.roundsTo hpos hlow'.le hhigh'.le (fun _ => ⟨hlow', hhigh'⟩) negative

/-- What `Interval.pick?` picks on a grid lies in the interval. -/
private theorem Interval.contains_of_pick? {i : Interval} {tie : Tie} {power : ℤ} {d : Decimal}
    (h : i.pick? tie power = some d) : i.contains d = true := by
  simp only [Interval.pick?] at h
  split at h
  next => cases h
  next hlower _ =>
    cases h
    exact hlower
  next _ hupper =>
    cases h
    exact hupper
  next hlower hupper =>
    -- The nearer one, and for a tie either one.
    split at h
    · cases h
      exact hlower
    · split at h
      · cases h
        exact hupper
      · split at h
        · cases h
          exact hupper
        · split at h
          · cases h
            exact hlower
          · cases h
            exact hupper

/-- So does what `Interval.search` finds on some grid. -/
private theorem Interval.contains_of_search {i : Interval} {tie : Tie} {fuel : ℕ} {power : ℤ}
    {d : Decimal} (h : i.search tie fuel power = some d) : i.contains d = true := by
  induction fuel generalizing power with
  | zero => cases h
  | succ fuel ih =>
    rw [Interval.search] at h
    split at h
    · next hpick =>
      cases h
      exact Interval.contains_of_pick? hpick
    · exact ih h

/-- `Decimal.exact` has the value of the double. -/
theorem value_exact (m : ℕ) (e : ℤ) : (Decimal.exact m e).value = magnitude m e := by
  unfold Decimal.exact Decimal.value magnitude
  split_ifs with he
  · rw [zpow_zero, mul_one, Nat.cast_mul, Nat.pow_eq, Nat.cast_pow, Nat.cast_ofNat, ← zpow_natCast,
      Int.toNat_of_nonneg he]
  · obtain ⟨k, rfl⟩ : ∃ k : ℕ, e = -k := ⟨(-e).toNat, by omega⟩
    have hten : (10 : ℚ) ^ k = 5 ^ k * 2 ^ k := by rw [← mul_pow]; norm_num
    rw [neg_neg, Int.toNat_natCast, zpow_neg, zpow_natCast, zpow_neg, zpow_natCast, hten,
      Nat.cast_mul, Nat.pow_eq, Nat.cast_pow, Nat.cast_ofNat]
    field_simp

/-- `shortest` gives a decimal that rounds to the double it was made for. -/
theorem roundsTo_shortest {m : ℕ} {e : ℤ} (h : IsCanonical m e) (hpos : 0 < m) (tie : Tie)
    (negative : Bool) : RoundsTo (signed negative (shortest tie m e).value) negative m e := by
  unfold shortest
  cases hsearch : (Interval.of m e).search tie 24 (topPower m e) with
  | some d => exact roundsTo_of_contains h hpos (Interval.contains_of_search hsearch) negative
  | none =>
    obtain ⟨bits, hbits⟩ := exists_ofBits_eq_finite_iff.2 h
    rw [Option.getD_none, value_exact]
    exact roundsTo_exactValue hbits

end Binary64
end FirewallProbe
