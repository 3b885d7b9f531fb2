import FirewallProbe.Exposition
import FirewallProbe.Proofs.Exposition.Numeral
import Mathlib.Data.Nat.Cast.Field

/-!
# The text of a value

`Shows` says when a text shows a double: a finite one is shown by a numeral of its sign that rounds
to it, and a whole number by its own digits.  A text shows one double only, so no two doubles other
than NaN are written alike.

## Key results

- `Shows.unique`: a text shows one double only
- `shows_valueChars`: the text of a value shows it
- `values_read_back`: both together, for values and their bits
-/

namespace FirewallProbe
namespace Exposition

open Binary64 (magnitude exactValue RoundsTo)

/-! ## Whole values -/

/-- `wholePart` is the value of a double that `isWhole`. -/
private theorem wholePart_eq_magnitude {m : ℕ} {e : ℤ} (h : Binary64.isWhole m e = true) :
    (Binary64.wholePart m e : ℚ) = magnitude m e := by
  unfold Binary64.wholePart magnitude
  split_ifs with he
  · rw [Nat.cast_mul, Nat.pow_eq, Nat.cast_pow, Nat.cast_ofNat, ← zpow_natCast,
      Int.toNat_of_nonneg he]
  · have hexp : e = -((-e).toNat : ℤ) := by omega
    simp only [Binary64.isWhole, he, decide_false, Bool.false_or, beq_iff_eq] at h
    rw [Nat.pow_eq] at h ⊢
    rw [Nat.cast_div (Nat.dvd_of_mod_eq_zero h) (by positivity), hexp, neg_neg, Int.toNat_natCast,
      zpow_neg, zpow_natCast, Nat.cast_pow, Nat.cast_ofNat, div_eq_mul_inv]

/-- `isWhole` finds the doubles that are whole numbers. -/
private theorem isWhole_of_magnitude_eq {m : ℕ} {e k : ℤ} (h : magnitude m e = k) :
    Binary64.isWhole m e = true := by
  rw [Binary64.isWhole, Bool.or_eq_true, decide_eq_true_eq, beq_iff_eq]
  by_cases he : 0 ≤ e
  · exact .inl he
  · have hexp : e = -((-e).toNat : ℤ) := by omega
    rw [magnitude, hexp, zpow_neg, zpow_natCast, ← div_eq_mul_inv, div_eq_iff (by positivity)] at h
    have hmul : (m : ℤ) = k * 2 ^ (-e).toNat := by exact_mod_cast h
    have hdvd : ((2 ^ (-e).toNat : ℕ) : ℤ) ∣ m := ⟨k, by rw [hmul, mul_comm]; push_cast; rfl⟩
    exact .inr (Nat.mod_eq_zero_of_dvd (Int.natCast_dvd_natCast.1 hdvd))

/-! ## What a text shows -/

/-- What the text of a value says about it.  A finite double is shown by a numeral of its sign that
rounds to it; if it is a whole number, the numeral stands for that number and has no point. -/
def Shows (cs : List Char) : Binary64 → Prop
  | .nan => cs = ['N', 'a', 'N']
  | .infinite false => cs = ['+', 'I', 'n', 'f']
  | .infinite true => cs = ['-', 'I', 'n', 'f']
  | .finite negative m e => ∃ n : Numeral, n.chars = cs ∧ n.negative = negative ∧
      RoundsTo n.value negative m e ∧
      ∀ k : ℤ, exactValue negative m e = k → n.fraction = [] ∧ n.value = k

/-- The words for values that are no numbers hold letters, which no numeral does. -/
private theorem Numeral.chars_ne_word {n : Numeral} {word : List Char} {c : Char} (hc : c ∈ word)
    (hletter : c = 'N' ∨ c = 'I') : n.chars ≠ word := by
  rintro rfl
  rcases Numeral.mem_chars hc with h | h | h <;> rcases hletter with rfl | rfl <;> simp at h

/-- A numeral `n` shows finite doubles only. -/
private theorem Shows.finite_of_numeral {n : Numeral} {d : Binary64} (h : Shows n.chars d) :
    ∃ m e, d = .finite n.negative m e ∧ RoundsTo n.value n.negative m e := by
  cases d with
  | nan => exact absurd h (Numeral.chars_ne_word List.mem_cons_self (.inl rfl))
  | infinite negative =>
    have hletter : 'I' ∈ ['-', 'I', 'n', 'f'] ∧ 'I' ∈ ['+', 'I', 'n', 'f'] := by decide
    cases negative with
    | false => exact absurd h (Numeral.chars_ne_word hletter.2 (.inr rfl))
    | true => exact absurd h (Numeral.chars_ne_word hletter.1 (.inr rfl))
  | finite negative m e =>
    obtain ⟨n', hchars, rfl, hrounds, -⟩ := h
    obtain rfl := Numeral.chars_injective hchars
    exact ⟨m, e, rfl, hrounds⟩

/-- A text shows one double only. -/
theorem Shows.unique {cs : List Char} {d d' : Binary64} (h : Shows cs d) (h' : Shows cs d') :
    d = d' := by
  by_cases hnumeral : ∃ n : Numeral, n.chars = cs
  · obtain ⟨n, rfl⟩ := hnumeral
    obtain ⟨m, e, rfl, hrounds⟩ := h.finite_of_numeral
    obtain ⟨m', e', rfl, hrounds'⟩ := h'.finite_of_numeral
    obtain ⟨rfl, rfl⟩ := hrounds.unique hrounds'
    rfl
  · -- The words are different.
    have hfinite : ∀ {negative m e}, ¬ Shows cs (.finite negative m e) :=
      fun ⟨n, hchars, _⟩ => hnumeral ⟨n, hchars⟩
    cases d with
    | finite => exact absurd h hfinite
    | nan =>
      cases d' with
      | finite => exact absurd h' hfinite
      | nan => rfl
      | infinite negative => cases negative <;> exact absurd (h.symm.trans h') (by decide)
    | infinite negative =>
      cases d' with
      | finite => exact absurd h' hfinite
      | nan => cases negative <;> exact absurd (h.symm.trans h') (by decide)
      | infinite negative' =>
        cases negative <;> cases negative'
        · rfl
        · exact absurd (h.symm.trans h') (by decide)
        · exact absurd (h.symm.trans h') (by decide)
        · rfl

/-- `wholeChars` writes a whole value with all its digits. -/
private theorem shows_wholeChars {bits : UInt64} {negative : Bool} {m : ℕ} {e : ℤ}
    (h : Binary64.ofBits bits = .finite negative m e) (hwhole : Binary64.isWhole m e = true) :
    Shows (Binary64.signChars negative ++ Binary64.wholeChars m e) (.finite negative m e) := by
  have hvalue : (Numeral.withZeros negative (Binary64.wholePart m e) 0).value =
      exactValue negative m e := by
    rw [Numeral.value_withZeros, pow_zero, mul_one, wholePart_eq_magnitude hwhole, exactValue]
  refine ⟨Numeral.withZeros negative (Binary64.wholePart m e) 0, ?_, rfl, ?_,
    fun k hk => ⟨rfl, ?_⟩⟩
  · rw [Numeral.chars_withZeros, Binary64.wholeChars, Binary64.zeros, List.replicate_zero,
      List.append_nil]
  · rw [hvalue]
    exact Binary64.roundsTo_exactValue h
  · rw [hvalue, hk]

/-- `plainChars` writes any other value as its shortest decimal. -/
private theorem shows_plainChars {bits : UInt64} {negative : Bool} {m : ℕ} {e : ℤ}
    (h : Binary64.ofBits bits = .finite negative m e) (hwhole : Binary64.isWhole m e ≠ true) :
    Shows (Binary64.signChars negative ++ Binary64.plainChars m e) (.finite negative m e) := by
  have hpos : 0 < m := by
    refine Nat.pos_of_ne_zero ?_
    rintro rfl
    exact hwhole (isWhole_of_magnitude_eq (show magnitude 0 e = (0 : ℤ) by simp [magnitude]))
  refine ⟨Numeral.ofDecimal negative (Binary64.shortest .up m e), ?_,
    Numeral.negative_ofDecimal _ _, ?_, fun k hk => ?_⟩
  · rw [Numeral.chars_ofDecimal, Binary64.plainChars, if_neg hpos.ne']
  · rw [Numeral.value_ofDecimal]
    exact Binary64.roundsTo_shortest (Binary64.isCanonical_of_ofBits h) hpos .up negative
  · have hmag : magnitude m e = (|k| : ℤ) := by
      rw [← Binary64.abs_exactValue negative, hk, Int.cast_abs]
    exact absurd (isWhole_of_magnitude_eq hmag) hwhole

/-- `valueChars` shows the value. -/
theorem shows_valueChars (x : Float) : Shows (valueChars x) (Binary64.ofFloat x) := by
  unfold valueChars
  cases hx : Binary64.ofFloat x with
  | nan => rfl
  | infinite negative => cases negative <;> rfl
  | finite negative m e =>
    dsimp only
    split_ifs with hwhole
    · exact shows_wholeChars hx hwhole
    · exact shows_plainChars hx hwhole

/-- `valueChars` shows every value, and the text of a value other than NaN is not that of a value
with other bits. -/
theorem values_read_back :
    (∀ x : Float, Shows (valueChars x) (Binary64.ofFloat x)) ∧
    ∀ x y : Float, Binary64.ofFloat x ≠ .nan → x.toBits ≠ y.toBits →
      valueChars x ≠ valueChars y := by
  refine ⟨shows_valueChars, fun x y hx hbits htext => hbits ?_⟩
  have hshows := shows_valueChars y
  rw [← htext] at hshows
  exact Binary64.ofBits_inj ((shows_valueChars x).unique hshows) hx

/-- The two zeros differ in their bits only. -/
theorem values_read_back_zeros :
    Shows (valueChars (-0.0)) (.finite true 0 (-1074)) ∧
    (Binary64.ofFloat (-0.0) ≠ .nan ∧ (-0.0 : Float).toBits ≠ (0.0 : Float).toBits) ∧
    valueChars (-0.0) ≠ valueChars 0.0 := by
  have hparts : Binary64.ofFloat (-0.0) = .finite true 0 (-1074) := by decide +kernel
  have hnumber : Binary64.ofFloat (-0.0) ≠ .nan := by decide +kernel
  have hbits : (-0.0 : Float).toBits ≠ (0.0 : Float).toBits := by decide +kernel
  exact ⟨hparts ▸ values_read_back.1 (-0.0), ⟨hnumber, hbits⟩,
    values_read_back.2 (-0.0) 0.0 hnumber hbits⟩

example : valueChars 0.001 = ['0', '.', '0', '0', '1'] := by decide +kernel

example : valueChars 42.0 = ['4', '2'] := by decide +kernel

end Exposition
end FirewallProbe
