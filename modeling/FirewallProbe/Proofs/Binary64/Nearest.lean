import FirewallProbe.Binary64.Text
import Mathlib.Algebra.Order.Field.Power
import Mathlib.Algebra.Order.Field.Rat
import Mathlib.Tactic.FieldSimp
import Mathlib.Tactic.Linarith
import Mathlib.Tactic.Positivity
import Mathlib.Tactic.Ring

/-!
# Numbers that round to a double

A finite double stands for the rational number `± m · 2 ^ e`.  `RoundsTo` says which rational
numbers round to it, to nearest and with ties to the even mantissa, by a comparison with all other
finite doubles.  A number between the midpoints to the two neighbours of a double is nearest to that
double, since the gaps between doubles keep all others away from it.

## Key results

- `exists_ofBits_eq_finite_iff`: the mantissas and exponents of the finite doubles
- `IsCanonical.succ_le`, `IsCanonical.add_gapBelow_le`: the gaps above and below a double
- `IsCanonical.roundsTo`: what lies between the midpoints rounds to the double
- `RoundsTo.unique`: a number rounds to one double only
-/

namespace FirewallProbe
namespace Binary64

/-- A number with the sign of a double or of a text. -/
def signed (negative : Bool) (q : ℚ) : ℚ := if negative then -q else q

/-- The number `m · 2 ^ e`. -/
def magnitude (m : ℕ) (e : ℤ) : ℚ := m * 2 ^ e

/-- The exact value of a finite double. -/
def exactValue (negative : Bool) (m : ℕ) (e : ℤ) : ℚ := signed negative (magnitude m e)

/-- A number rounds to a finite double, to nearest and with ties to even: no finite double is
nearer, and if one of another value is as near, the mantissa is even.  From `2 ^ 1024 - 2 ^ 970` on,
which is halfway from the largest double to the power of two above it, numbers round to infinity. -/
structure RoundsTo (q : ℚ) (negative : Bool) (m : ℕ) (e : ℤ) : Prop where
  isDouble : ∃ bits, ofBits bits = .finite negative m e
  inRange : |q| < 2 ^ 1024 - 2 ^ 970
  nearest : ∀ bits negative' m' e', ofBits bits = .finite negative' m' e' →
    |q - exactValue negative m e| ≤ |q - exactValue negative' m' e'|
  tiesToEven : ∀ bits negative' m' e', ofBits bits = .finite negative' m' e' →
    exactValue negative' m' e' ≠ exactValue negative m e →
    |q - exactValue negative' m' e'| = |q - exactValue negative m e| → Even m

/-! ## The parts of a double -/

/-- Mantissa and exponent of a finite double: the mantissa has all its 53 bits unless the exponent
is the lowest one. -/
structure IsCanonical (m : ℕ) (e : ℤ) : Prop where
  mantissa_lt : m < 2 ^ 53
  exponent_ge : -1074 ≤ e
  exponent_le : e ≤ 971
  normal : e = -1074 ∨ 2 ^ 52 ≤ m

/-- `ofBits` gives canonical pairs of mantissa and exponent. -/
theorem isCanonical_of_ofBits {bits : UInt64} {negative : Bool} {m : ℕ} {e : ℤ}
    (h : ofBits bits = .finite negative m e) : IsCanonical m e := by
  simp only [ofBits] at h
  split at h
  · split at h <;> cases h
  · split at h
    · simp only [finite.injEq] at h
      constructor <;> omega
    · simp only [finite.injEq] at h
      constructor <;> omega

/-- `ofBits` reads sign, exponent and fraction back from the bits that they are put together to. -/
private theorem ofBits_fields (negative : Bool) {biased fraction : ℕ} (hbiased : biased < 2048)
    (hfraction : fraction < 2 ^ 52) :
    ofBits (.ofNat (negative.toNat * 2 ^ 63 + biased * 2 ^ 52 + fraction)) =
      if biased = 2047 then if fraction = 0 then .infinite negative else .nan
      else if biased = 0 then .finite negative fraction (-1074)
      else .finite negative (2 ^ 52 + fraction) (biased - 1075) := by
  -- The three fields do not overlap, so division and remainder take them out again.
  have hsign : negative.toNat ≤ 1 := negative.toNat_le
  have hlt : negative.toNat * 2 ^ 63 + biased * 2 ^ 52 + fraction < 2 ^ 64 := by omega
  have hnegative : decide (0x8000000000000000 ≤
      negative.toNat * 2 ^ 63 + biased * 2 ^ 52 + fraction) = negative := by
    cases negative
    · rw [decide_eq_false_iff_not, Bool.toNat_false]
      omega
    · rw [decide_eq_true_eq, Bool.toNat_true]
      omega
  have hbiased' : (negative.toNat * 2 ^ 63 + biased * 2 ^ 52 + fraction) /
      0x10000000000000 % 2048 = biased := by omega
  have hfraction' : (negative.toNat * 2 ^ 63 + biased * 2 ^ 52 + fraction) %
      0x10000000000000 = fraction := by omega
  simp only [ofBits, UInt64.toNat_ofNat_of_lt' hlt, hnegative, hbiased', hfraction']
  rfl

/-- The canonical pairs are exactly those that `ofBits` gives, with either sign. -/
theorem exists_ofBits_eq_finite_iff {negative : Bool} {m : ℕ} {e : ℤ} :
    (∃ bits, ofBits bits = .finite negative m e) ↔ IsCanonical m e := by
  refine ⟨fun ⟨_, h⟩ => isCanonical_of_ofBits h, fun ⟨hm, hlow, hhigh, hnormal⟩ => ?_⟩
  by_cases hsub : m < 2 ^ 52
  · have hbits := ofBits_fields negative (by decide : 0 < 2048) hsub
    rw [if_neg (by decide), if_pos rfl] at hbits
    exact ⟨_, hbits.trans (by rw [show e = -1074 by omega])⟩
  · have hbiased : (e + 1075).toNat < 2048 := by omega
    have hfraction : m - 2 ^ 52 < 2 ^ 52 := by omega
    have hbits := ofBits_fields negative hbiased hfraction
    rw [if_neg (by omega), if_neg (by omega), show 2 ^ 52 + (m - 2 ^ 52) = m by omega,
      show ((e + 1075).toNat : ℤ) - 1075 = e by omega] at hbits
    exact ⟨_, hbits⟩

/-- `ofBits` is injective but for the bit patterns of `nan`. -/
theorem ofBits_inj {a b : UInt64} (h : ofBits a = ofBits b) (ha : ofBits a ≠ .nan) : a = b := by
  have hlta : a.toNat < 2 ^ 64 := a.toNat_lt
  have hltb : b.toNat < 2 ^ 64 := b.toNat_lt
  apply UInt64.toNat_inj.1
  simp only [ofBits] at h ha
  split_ifs at h ha <;> simp_all <;> omega

/-- Zero is canonical with the lowest exponent. -/
theorem isCanonical_zero : IsCanonical 0 (-1074) := by
  constructor <;> norm_num

/-! ## Gaps between doubles -/

/-- A power of two is a whole multiple of any lower one. -/
private theorem two_zpow_eq_mul {a b : ℤ} (h : a ≤ b) :
    (2 : ℚ) ^ b = (2 ^ (b - a).toNat : ℕ) * 2 ^ a := by
  rw [Nat.cast_pow, Nat.cast_ofNat, ← zpow_natCast, ← zpow_add₀ two_ne_zero,
    show ((b - a).toNat : ℤ) + a = b by omega]

/-- A `magnitude` is not negative. -/
theorem magnitude_nonneg (m : ℕ) (e : ℤ) : 0 ≤ magnitude m e := by
  unfold magnitude
  positivity

/-- A double of a lower exponent is below `2 ^ 53` steps of half the size. -/
private theorem IsCanonical.le_of_exponent_lt {m : ℕ} {e e' : ℤ} (h : IsCanonical m e)
    (hlt : e < e') : magnitude m e ≤ (2 ^ 53 - 1) * 2 ^ (e' - 1) := by
  have hm : (m : ℚ) ≤ 2 ^ 53 - 1 := by
    have := h.mantissa_lt
    rw [le_sub_iff_add_le]
    exact_mod_cast this
  have he : (2 : ℚ) ^ e ≤ 2 ^ (e' - 1) := zpow_le_zpow_right₀ one_le_two (by omega)
  exact mul_le_mul hm he (by positivity) (by norm_num)

/-- Above the lowest exponent the mantissa has all its bits. -/
private theorem IsCanonical.le_mantissa {m : ℕ} {e : ℤ} (h : IsCanonical m e) (he : -1074 < e) :
    2 ^ 52 ≤ m :=
  h.normal.resolve_left he.ne'

/-- A power of two is two of the next lower one. -/
theorem two_zpow_sub_one (e : ℤ) : (2 : ℚ) ^ e = 2 * 2 ^ (e - 1) := by
  rw [← zpow_one_add₀ two_ne_zero, add_sub_cancel]

/-- Doubles of a lower exponent have a lower `magnitude`. -/
theorem IsCanonical.magnitude_lt {m m' : ℕ} {e e' : ℤ} (h : IsCanonical m e)
    (h' : IsCanonical m' e') (hlt : e < e') : magnitude m e < magnitude m' e' := by
  have hpos : (0 : ℚ) < 2 ^ (e' - 1) := by positivity
  have hm' : (2 ^ 52 : ℚ) ≤ m' := by
    exact_mod_cast h'.le_mantissa (h.exponent_ge.trans_lt hlt)
  calc magnitude m e
      ≤ (2 ^ 53 - 1) * 2 ^ (e' - 1) := h.le_of_exponent_lt hlt
    _ < 2 ^ 52 * (2 * 2 ^ (e' - 1)) := by linarith
    _ = 2 ^ 52 * 2 ^ e' := by rw [← two_zpow_sub_one]
    _ ≤ magnitude m' e' := mul_le_mul_of_nonneg_right hm' (by positivity)

/-- `magnitude` is injective on canonical pairs: a double has one mantissa and one exponent. -/
theorem IsCanonical.eq_of_magnitude_eq {m m' : ℕ} {e e' : ℤ} (h : IsCanonical m e)
    (h' : IsCanonical m' e') (heq : magnitude m e = magnitude m' e') : m = m' ∧ e = e' := by
  rcases lt_trichotomy e e' with hlt | rfl | hgt
  · exact absurd heq (h.magnitude_lt h' hlt).ne
  · have hmul := mul_right_cancel₀ (by positivity : (2 : ℚ) ^ e ≠ 0) heq
    exact ⟨by exact_mod_cast hmul, rfl⟩
  · exact absurd heq (h'.magnitude_lt h hgt).ne'

/-- Between `magnitude m e` and `magnitude (m + 1) e` there is no double. -/
theorem IsCanonical.succ_le {m m' : ℕ} {e e' : ℤ} (h : IsCanonical m e) (h' : IsCanonical m' e')
    (hlt : magnitude m e < magnitude m' e') : magnitude (m + 1) e ≤ magnitude m' e' := by
  have hle : e ≤ e' := by
    by_contra hgt
    exact hlt.not_gt (h'.magnitude_lt h (not_le.1 hgt))
  -- Both are whole multiples of the lower power of two.
  rw [magnitude, magnitude, two_zpow_eq_mul hle, ← mul_assoc] at hlt ⊢
  have hmul : (m : ℚ) < m' * (2 ^ (e' - e).toNat : ℕ) :=
    lt_of_mul_lt_mul_right hlt (by positivity)
  exact mul_le_mul_of_nonneg_right (by exact_mod_cast hmul) (by positivity)

/-- The distance to the next double below: powers of two have it at half the distance of the one
above, unless they are of the lowest exponent. -/
def gapBelow (m : ℕ) (e : ℤ) : ℚ := if m = 2 ^ 52 ∧ -1074 < e then 2 ^ (e - 1) else 2 ^ e

/-- The next double below `magnitude m e` lies at least `gapBelow m e` away. -/
theorem IsCanonical.add_gapBelow_le {m m' : ℕ} {e e' : ℤ} (h : IsCanonical m e)
    (h' : IsCanonical m' e') (hlt : magnitude m' e' < magnitude m e) :
    magnitude m' e' + gapBelow m e ≤ magnitude m e := by
  have hpos : (0 : ℚ) < 2 ^ (e - 1) := by positivity
  have htwo := two_zpow_sub_one e
  -- Both doubles are multiples of the unit of the smaller exponent.
  rcases le_or_gt e e' with hle | hgt
  · have hgap : gapBelow m e ≤ 2 ^ e := by
      unfold gapBelow
      split_ifs <;> linarith
    have hsucc : magnitude m' e' + 2 ^ e ≤ magnitude m e := by
      rw [magnitude, magnitude, two_zpow_eq_mul hle, ← mul_assoc] at hlt ⊢
      have hmul : (m' * (2 ^ (e' - e).toNat : ℕ) : ℚ) < m :=
        lt_of_mul_lt_mul_right hlt (by positivity)
      rw [← add_one_mul]
      exact mul_le_mul_of_nonneg_right (by exact_mod_cast hmul) (by positivity)
    linarith
  · -- The doubles of lower exponents end half a unit below the least of this exponent.
    have hle := h'.le_of_exponent_lt hgt
    have hm := h.le_mantissa (h'.exponent_ge.trans_lt hgt)
    unfold gapBelow
    split_ifs with hpow
    · have heq : magnitude m e = 2 ^ 52 * 2 ^ e := by
        rw [magnitude, hpow.1]
        push_cast
        rfl
      linarith
    · have hm' : (2 ^ 52 + 1 : ℚ) ≤ m := by
        have := h'.exponent_ge
        exact_mod_cast (by omega : 2 ^ 52 + 1 ≤ m)
      have hge : (2 ^ 52 + 1) * 2 ^ e ≤ magnitude m e :=
        mul_le_mul_of_nonneg_right hm' (by positivity)
      linarith

/-- So does zero, which is a double too. -/
theorem IsCanonical.gapBelow_le {m : ℕ} {e : ℤ} (h : IsCanonical m e) (hpos : 0 < m) :
    gapBelow m e ≤ magnitude m e := by
  have hzero : magnitude 0 (-1074) = 0 := by simp [magnitude]
  have hlt : magnitude 0 (-1074) < magnitude m e := by
    rw [hzero, magnitude]
    positivity
  have hgap := h.add_gapBelow_le isCanonical_zero hlt
  rwa [hzero, zero_add] at hgap

/-- A double of either sign keeps the distances to both neighbours of a positive double. -/
theorem IsCanonical.gap {m m' : ℕ} {e e' : ℤ} (h : IsCanonical m e) (hpos : 0 < m)
    (h' : IsCanonical m' e') {negative : Bool} (hne : exactValue negative m' e' ≠ magnitude m e) :
    exactValue negative m' e' + gapBelow m e ≤ magnitude m e ∨
      magnitude m e + 2 ^ e ≤ exactValue negative m' e' := by
  cases negative with
  | false =>
    simp only [exactValue, signed, Bool.false_eq_true, if_false] at hne ⊢
    refine (lt_or_gt_of_ne hne).imp (h.add_gapBelow_le h') fun hgt => ?_
    have hsucc := h.succ_le h' hgt
    rwa [magnitude, Nat.cast_succ, add_one_mul] at hsucc
  | true =>
    -- A negative double is not above zero.
    have hgap := h.gapBelow_le hpos
    have hnonneg := magnitude_nonneg m' e'
    simp only [exactValue, signed, if_true]
    exact .inl (by linarith)

/-! ## Rounding -/

/-- `signed` keeps the absolute value. -/
@[simp] theorem abs_signed (negative : Bool) (q : ℚ) : |signed negative q| = |q| := by
  cases negative <;> simp [signed]

/-- The distance of two `signed` numbers depends on whether their signs agree. -/
theorem abs_signed_sub_signed (a b : Bool) (p q : ℚ) :
    |signed a p - signed b q| = |p - signed (a ^^ b) q| := by
  cases a with
  | false => rw [Bool.false_xor]; rfl
  | true =>
    have hneg : signed true p - signed b q = -(p - signed (!b) q) := by
      cases b <;> simp only [signed, Bool.not_true, Bool.not_false, Bool.false_eq_true, if_true,
        if_false] <;> ring
    rw [hneg, abs_neg, Bool.true_xor]

/-- Signs multiply. -/
theorem signed_signed (a b : Bool) (q : ℚ) : signed a (signed b q) = signed (a ^^ b) q := by
  cases a <;> cases b <;> simp [signed]

/-- The distance to a double is that of the number with its sign turned to the magnitude. -/
theorem abs_sub_exactValue (negative : Bool) (q : ℚ) (m : ℕ) (e : ℤ) :
    |q - exactValue negative m e| = |signed negative q - magnitude m e| :=
  calc |q - exactValue negative m e|
      = |signed negative (signed negative q) - signed negative (magnitude m e)| := by
        rw [signed_signed, Bool.xor_self]
        rfl
    _ = |signed negative q - magnitude m e| := by
        rw [abs_signed_sub_signed, Bool.xor_self]
        rfl

/-- The absolute value of `exactValue` is the `magnitude`. -/
theorem abs_exactValue (negative : Bool) (m : ℕ) (e : ℤ) :
    |exactValue negative m e| = magnitude m e := by
  rw [exactValue, abs_signed, abs_of_nonneg (magnitude_nonneg m e)]

/-- Up to half a unit above a double no number rounds to infinity, half a unit itself included if
the mantissa is even. -/
theorem IsCanonical.inRange {m : ℕ} {e : ℤ} (h : IsCanonical m e) {q : ℚ}
    (hle : q ≤ magnitude m e + 2 ^ e / 2) (hodd : ¬ Even m → q < magnitude m e + 2 ^ e / 2) :
    q < 2 ^ 1024 - 2 ^ 970 := by
  have hpos : (0 : ℚ) < 2 ^ e := by positivity
  have htop : (2 : ℚ) ^ e ≤ 2 * 2 ^ 970 :=
    calc (2 : ℚ) ^ e ≤ 2 ^ ((971 : ℕ) : ℤ) := zpow_le_zpow_right₀ one_le_two h.exponent_le
      _ = 2 * 2 ^ 970 := by rw [zpow_natCast, pow_succ']
  have hlt : q < (2 ^ 53 - 1 / 2) * 2 ^ e := by
    -- The greatest mantissa is odd.
    by_cases hmax : m = 2 ^ 53 - 1
    · have hq := hodd (by rw [hmax]; decide)
      rw [hmax, magnitude] at hq
      push_cast at hq
      linarith
    · have hm : (m : ℚ) ≤ 2 ^ 53 - 2 := by
        have := h.mantissa_lt
        rw [le_sub_iff_add_le]
        exact_mod_cast (by omega : m + 2 ≤ 2 ^ 53)
      have hmag : magnitude m e ≤ (2 ^ 53 - 2) * 2 ^ e := mul_le_mul_of_nonneg_right hm hpos.le
      linarith
  rw [show (2 : ℚ) ^ 1024 = 2 ^ 54 * 2 ^ 970 from pow_add 2 54 970]
  generalize (2 : ℚ) ^ 970 = top at htop ⊢
  linarith

/-- `exactValue` of a double rounds to that double. -/
theorem roundsTo_exactValue {bits : UInt64} {negative : Bool} {m : ℕ} {e : ℤ}
    (h : ofBits bits = .finite negative m e) :
    RoundsTo (exactValue negative m e) negative m e where
  isDouble := ⟨bits, h⟩
  inRange := by
    have hpos : (0 : ℚ) < 2 ^ e := by positivity
    rw [abs_exactValue]
    exact (isCanonical_of_ofBits h).inRange (by linarith) fun _ => by linarith
  nearest _ _ _ _ _ := by simp
  tiesToEven _ _ _ _ _ hne heq := by
    rw [sub_self, abs_zero, abs_eq_zero, sub_eq_zero] at heq
    exact absurd heq.symm hne

/-- A number between the midpoints to the neighbours is no nearer to what lies beyond them, and as
near at a midpoint only. -/
private theorem nearest_of_gap {q v w below above : ℚ} (hlow : v - below / 2 ≤ q)
    (hhigh : q ≤ v + above / 2) (hgap : w + below ≤ v ∨ v + above ≤ w) (hbelow : 0 < below)
    (habove : 0 < above) :
    |q - v| ≤ |q - w| ∧ (|q - w| = |q - v| → q = v - below / 2 ∨ q = v + above / 2) := by
  rw [abs_sub_le_iff]
  constructor
  · have := le_abs_self (q - w)
    have := neg_le_abs (q - w)
    rcases hgap with hgap | hgap <;> constructor <;> linarith
  · intro heq
    -- The number lies halfway between the two.
    have hmid : q - w = -(q - v) := by
      refine (abs_eq_abs.1 heq).resolve_left fun hsame => ?_
      rcases hgap with hgap | hgap <;> linarith
    rcases hgap with hgap | hgap
    · exact .inl (le_antisymm (by linarith) hlow)
    · exact .inr (le_antisymm hhigh (by linarith))

/-- `gapBelow` is positive. -/
theorem gapBelow_pos (m : ℕ) (e : ℤ) : 0 < gapBelow m e := by
  unfold gapBelow
  split_ifs <;> positivity

/-- What lies between the midpoints to the neighbours of a double rounds to it; the midpoints
themselves do so if the mantissa is even. -/
theorem IsCanonical.roundsTo {m : ℕ} {e : ℤ} (h : IsCanonical m e) (hpos : 0 < m) {q : ℚ}
    (hlow : magnitude m e - gapBelow m e / 2 ≤ q) (hhigh : q ≤ magnitude m e + 2 ^ e / 2)
    (hodd : ¬ Even m → magnitude m e - gapBelow m e / 2 < q ∧ q < magnitude m e + 2 ^ e / 2)
    (negative : Bool) : RoundsTo (signed negative q) negative m e := by
  have hunit : (0 : ℚ) < 2 ^ e := by positivity
  have hbelow := gapBelow_pos m e
  -- The distance to any double, as one from `q`.
  have hdist : ∀ negative' m' e', |signed negative q - exactValue negative' m' e'| =
      |q - exactValue (negative ^^ negative') m' e'| := fun negative' m' e' =>
    abs_signed_sub_signed negative negative' q (magnitude m' e')
  have hself : |signed negative q - exactValue negative m e| = |q - magnitude m e| := by
    rw [hdist, Bool.xor_self]
    rfl
  refine ⟨exists_ofBits_eq_finite_iff.2 h, ?_, ?_, ?_⟩
  · have hge : 0 ≤ q := by
      have := h.gapBelow_le hpos
      linarith
    rw [abs_signed, abs_of_nonneg hge]
    exact h.inRange hhigh fun h => (hodd h).2
  · intro bits negative' m' e' hbits
    rw [hself, hdist]
    by_cases hne : exactValue (negative ^^ negative') m' e' = magnitude m e
    · rw [hne]
    · have hgap := h.gap hpos (isCanonical_of_ofBits hbits) hne
      exact (nearest_of_gap hlow hhigh hgap hbelow hunit).1
  · intro bits negative' m' e' hbits hne heq
    by_contra hnot
    rw [hself, hdist] at heq
    have hne' : exactValue (negative ^^ negative') m' e' ≠ magnitude m e := by
      intro hvalue
      have hsigned := congrArg (signed negative) hvalue
      rw [exactValue, signed_signed, ← Bool.xor_assoc, Bool.xor_self, Bool.false_xor] at hsigned
      exact hne hsigned
    have hgap := h.gap hpos (isCanonical_of_ofBits hbits) hne'
    rcases (nearest_of_gap hlow hhigh hgap hbelow hunit).2 heq with hend | hend
    · exact (hodd hnot).1.ne' hend
    · exact (hodd hnot).2.ne hend

/-- Doubles of even mantissas are no neighbours: `magnitude (m + 1) e` lies between them. -/
private theorem IsCanonical.between {m m' : ℕ} {e e' : ℤ} (h : IsCanonical m e)
    (h' : IsCanonical m' e') (hlt : magnitude m e < magnitude m' e') (heven : Even m)
    (heven' : Even m') :
    IsCanonical (m + 1) e ∧ magnitude m e < magnitude (m + 1) e ∧
      magnitude (m + 1) e < magnitude m' e' := by
  have hnext : IsCanonical (m + 1) e := by
    obtain ⟨k, hk⟩ := heven
    obtain ⟨hm, hlow, hhigh, hnormal⟩ := h
    constructor <;> omega
  refine ⟨hnext, ?_, lt_of_le_of_ne (h.succ_le h' hlt) fun hmag => ?_⟩
  · have hunit : (0 : ℚ) < 2 ^ e := by positivity
    rw [magnitude, magnitude, Nat.cast_succ, add_one_mul]
    linarith
  · obtain ⟨rfl, -⟩ := hnext.eq_of_magnitude_eq h' hmag
    exact Nat.even_add_one.1 heven' heven

/-- Of two doubles of one sign that a number rounds to, none is the greater one. -/
private theorem RoundsTo.magnitude_le {q : ℚ} {negative : Bool} {m m' : ℕ} {e e' : ℤ}
    (h : RoundsTo q negative m e) (h' : RoundsTo q negative m' e') :
    magnitude m' e' ≤ magnitude m e := by
  by_contra hgt
  have hlt : magnitude m e < magnitude m' e' := not_le.1 hgt
  obtain ⟨bits, hbits⟩ := h.isDouble
  obtain ⟨bits', hbits'⟩ := h'.isDouble
  have hnot : exactValue negative m' e' ≠ exactValue negative m e := by
    intro hvalue
    have hmag := congrArg abs hvalue
    rw [abs_exactValue, abs_exactValue] at hmag
    exact hlt.ne' hmag
  -- Both are as near, so both mantissas are even and the next double lies between the two.
  have heq : |q - exactValue negative m' e'| = |q - exactValue negative m e| :=
    le_antisymm (h'.nearest _ _ _ _ hbits) (h.nearest _ _ _ _ hbits')
  have heven : Even m := h.tiesToEven _ _ _ _ hbits' hnot heq
  have heven' : Even m' := h'.tiesToEven _ _ _ _ hbits hnot.symm heq.symm
  obtain ⟨hnext, hsucc, hbetween⟩ :=
    (isCanonical_of_ofBits hbits).between (isCanonical_of_ofBits hbits') hlt heven heven'
  -- The number lies halfway, so the next double is nearer.
  obtain ⟨next, hnextBits⟩ := exists_ofBits_eq_finite_iff.2 hnext
  have hnear := h.nearest _ _ _ _ hnextBits
  simp only [abs_sub_exactValue] at heq hnear
  rcases abs_eq_abs.1 heq with hsame | hmid
  · linarith
  · have hpos : 0 < signed negative q - magnitude m e := by linarith
    have hcloser : |signed negative q - magnitude (m + 1) e| < signed negative q - magnitude m e :=
      abs_sub_lt_iff.2 ⟨by linarith, by linarith⟩
    rw [abs_of_pos hpos] at hnear
    exact hcloser.not_ge hnear

/-- `RoundsTo` determines mantissa and exponent: a number rounds to one double of its sign only. -/
theorem RoundsTo.unique {q : ℚ} {negative : Bool} {m m' : ℕ} {e e' : ℤ}
    (h : RoundsTo q negative m e) (h' : RoundsTo q negative m' e') : m = m' ∧ e = e' :=
  (exists_ofBits_eq_finite_iff.1 h.isDouble).eq_of_magnitude_eq
    (exists_ofBits_eq_finite_iff.1 h'.isDouble)
    (le_antisymm (h'.magnitude_le h) (h.magnitude_le h'))

end Binary64
end FirewallProbe
