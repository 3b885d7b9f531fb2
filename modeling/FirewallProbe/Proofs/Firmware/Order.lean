import Mathlib.Data.Prod.Lex
import FirewallProbe.Firmware

/-!
# The order of firmware versions

Versions are ordered lexicographically, the major number first.  A requirement holds for known
firmware that is not below it.

## Key results

- `Firmware.le_iff`: the order, number by number
- `Firmware.meets_iff`: what it is to meet a requirement
-/

namespace FirewallProbe
namespace Firmware

/-- The numbers of a version, to be compared lexicographically. -/
def key (v : Firmware) : ℕ ×ₗ ℕ := toLex (v.major.toNat, v.minor.toNat)

/-- A version is told by its `key`. -/
theorem key_injective : Function.Injective key := by
  intro v w h
  have hpair : (v.major.toNat, v.minor.toNat) = (w.major.toNat, w.minor.toNat) := toLex.injective h
  obtain ⟨hmajor, hminor⟩ := Prod.mk.injEq .. ▸ hpair
  cases v
  cases w
  simp_all [UInt32.toNat_inj]

instance : LinearOrder Firmware := LinearOrder.lift' key key_injective

/-- Versions are ordered by `major`, and by `minor` where that is the same. -/
theorem le_iff (v w : Firmware) :
    v ≤ w ↔ v.major < w.major ∨ v.major = w.major ∧ v.minor ≤ w.minor := by
  rw [UInt32.lt_iff_toNat_lt, UInt32.le_iff_toNat_le, ← UInt32.toNat_inj]
  exact Prod.Lex.toLex_le_toLex

/-- `satisfies` decides the order. -/
theorem satisfies_iff (v least : Firmware) : v.satisfies least = true ↔ least ≤ v := by
  rw [le_iff, @eq_comm _ least.major]
  simp [satisfies]

/-- `meets` holds of `known` firmware that is not below `least`. -/
theorem meets_iff (known : Option Firmware) (least : Firmware) :
    meets known least = true ↔ ∃ v ∈ known, least ≤ v := by
  cases known with
  | none => simp [meets]
  | some v => simp [meets, satisfies_iff]

/-- `meets` fails if the firmware is not known, or below `least`. -/
theorem meets_eq_false_iff (known : Option Firmware) (least : Firmware) :
    meets known least = false ↔ ∀ v ∈ known, v < least := by
  rw [← Bool.not_eq_true, meets_iff]
  simp

end Firmware
end FirewallProbe
