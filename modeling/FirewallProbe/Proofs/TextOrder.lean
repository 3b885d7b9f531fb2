import Mathlib.Data.String.Basic
import FirewallProbe.Proofs.TextBytes

/-!
# The order of texts

Texts are compared character by character.  Their bytes in UTF-8 are in the same order: of two
characters the greater has more bytes, or as many and greater ones, and more bytes begin with a
greater one.

## Key results

- `WrittenInOrder.later`: a byte with six more bits keeps the order
- `utf8EncodeChar_append_lt`: characters are in the order of their bytes, whatever follows
- `bytesOf_lt_iff`: so are texts
-/

namespace FirewallProbe
namespace Text

/-! ## Numbers written as bytes -/

/-- The first byte of a character: a mark that tells how many bytes there are, and bits. -/
def leadByte (size mark v : Nat) : UInt8 := UInt8.ofNat (v % size + mark)

/-- A later byte of a character: six bits and their mark. -/
def laterByte (v : Nat) : UInt8 := UInt8.ofNat (v % 64 + 128)

/-- Below `limit`, greater numbers are written as greater bytes, whatever follows them. -/
def WrittenInOrder (limit : Nat) (bytes : Nat → List UInt8) : Prop :=
  ∀ v w, v < w → w < limit → ∀ xs ys, bytes v ++ xs < bytes w ++ ys

theorem cons_lt_cons_of_toNat_lt {a b : UInt8} (h : a.toNat < b.toNat) (xs ys : List UInt8) :
    a :: xs < b :: ys :=
  List.cons_lt_cons_iff.2 (.inl (UInt8.lt_iff_toNat_lt.2 h))

/-- `leadByte` keeps the order of the numbers that it does not cut off. -/
theorem writtenInOrder_leadByte (size mark : Nat) (h : size + mark ≤ 256) :
    WrittenInOrder size fun v => [leadByte size mark v] := by
  intro v w hlt hw xs ys
  refine cons_lt_cons_of_toNat_lt ?_ xs ys
  simp only [leadByte, UInt8.toNat_ofNat', Nat.mod_eq_of_lt hw,
    Nat.mod_eq_of_lt (Nat.lt_trans hlt hw)]
  omega

/-- A `laterByte` behind `front` holds six more bits. -/
theorem WrittenInOrder.later {limit : Nat} {front : Nat → List UInt8}
    (h : WrittenInOrder limit front) :
    WrittenInOrder (limit * 64) fun v => front (v / 64) ++ [laterByte v] := by
  intro v w hlt hw xs ys
  simp only [List.append_assoc, List.singleton_append]
  by_cases hdiv : v / 64 < w / 64
  · exact h _ _ hdiv (by omega) _ _
  · -- The bytes before are the same, so the numbers differ in the bits of this one.
    have hsame : v / 64 = w / 64 := by omega
    rw [hsame]
    refine List.append_left_lt (cons_lt_cons_of_toNat_lt ?_ xs ys)
    simp only [laterByte, UInt8.toNat_ofNat']
    omega

/-- A number in one byte. -/
def oneByte (v : Nat) : List UInt8 := [leadByte 128 0 v]

/-- A number in two bytes. -/
def twoBytes (v : Nat) : List UInt8 := [leadByte 32 192 (v / 64)] ++ [laterByte v]

/-- A number in three bytes. -/
def threeBytes (v : Nat) : List UInt8 :=
  [leadByte 16 224 (v / 64 / 64)] ++ [laterByte (v / 64)] ++ [laterByte v]

/-- A number in four bytes. -/
def fourBytes (v : Nat) : List UInt8 :=
  [leadByte 8 240 (v / 64 / 64 / 64)] ++ [laterByte (v / 64 / 64)] ++ [laterByte (v / 64)] ++
    [laterByte v]

theorem writtenInOrder_oneByte : WrittenInOrder 0x80 oneByte :=
  writtenInOrder_leadByte 128 0 (by decide)

theorem writtenInOrder_twoBytes : WrittenInOrder 0x800 twoBytes :=
  (writtenInOrder_leadByte 32 192 (by decide)).later

theorem writtenInOrder_threeBytes : WrittenInOrder 0x10000 threeBytes :=
  (writtenInOrder_leadByte 16 224 (by decide)).later.later

theorem writtenInOrder_fourBytes : WrittenInOrder 0x200000 fourBytes :=
  (writtenInOrder_leadByte 8 240 (by decide)).later.later.later

/-! ## Characters -/

/-- `String.utf8EncodeChar` writes one to four bytes, by the number of the character. -/
theorem utf8EncodeChar_cases (c : Char) :
    (c.toNat < 0x80 ∧ String.utf8EncodeChar c = oneByte c.toNat) ∨
    (0x80 ≤ c.toNat ∧ c.toNat < 0x800 ∧ String.utf8EncodeChar c = twoBytes c.toNat) ∨
    (0x800 ≤ c.toNat ∧ c.toNat < 0x10000 ∧ String.utf8EncodeChar c = threeBytes c.toNat) ∨
    (0x10000 ≤ c.toNat ∧ c.toNat < 0x110000 ∧ String.utf8EncodeChar c = fourBytes c.toNat) := by
  -- The surrogates, which are no characters, do not matter here.
  have hlimit : c.toNat < 0x110000 := by
    rcases c.valid with h | h
    · exact Nat.lt_trans h (by decide)
    · exact h.2
  have hbytes : String.utf8EncodeChar c =
      if c.toNat ≤ 0x7f then [UInt8.ofNat c.toNat]
      else if c.toNat ≤ 0x7ff then [leadByte 32 192 (c.toNat / 64), laterByte c.toNat]
      else if c.toNat ≤ 0xffff then
        [leadByte 16 224 (c.toNat / 4096), laterByte (c.toNat / 64), laterByte c.toNat]
      else
        [leadByte 8 240 (c.toNat / 262144), laterByte (c.toNat / 4096), laterByte (c.toNat / 64),
          laterByte c.toNat] := rfl
  rw [hbytes]
  -- Shifts by six bits at once are shifts by six bits one after the other.
  split
  · have hsmall : c.toNat % 128 = c.toNat := by omega
    exact .inl ⟨by omega, by rw [oneByte, leadByte, hsmall, Nat.add_zero]⟩
  · split
    · exact .inr (.inl ⟨by omega, by omega, rfl⟩)
    · split
      · refine .inr (.inr (.inl ⟨by omega, by omega, ?_⟩))
        simp [threeBytes, Nat.div_div_eq_div_mul]
      · refine .inr (.inr (.inr ⟨by omega, by omega, ?_⟩))
        simp [fourBytes, Nat.div_div_eq_div_mul]

/-- `String.utf8EncodeChar` keeps the order of characters, whatever follows their bytes. -/
theorem utf8EncodeChar_append_lt {c d : Char} (h : c < d) (xs ys : List UInt8) :
    String.utf8EncodeChar c ++ xs < String.utf8EncodeChar d ++ ys := by
  have hlt : c.toNat < d.toNat := h
  have hcases := utf8EncodeChar_cases c
  have hcases' := utf8EncodeChar_cases d
  rcases hcases with ⟨hc, hcs⟩ | ⟨hc, hc', hcs⟩ | ⟨hc, hc', hcs⟩ | ⟨hc, hc', hcs⟩ <;>
  rcases hcases' with ⟨hd, hds⟩ | ⟨hd, hd', hds⟩ | ⟨hd, hd', hds⟩ | ⟨hd, hd', hds⟩ <;>
  rw [hcs, hds]
  case inl.inl => exact writtenInOrder_oneByte _ _ hlt hd xs ys
  case inr.inl.inr.inl => exact writtenInOrder_twoBytes _ _ hlt hd' xs ys
  case inr.inr.inl.inr.inr.inl => exact writtenInOrder_threeBytes _ _ hlt hd' xs ys
  case inr.inr.inr.inr.inr.inr => exact writtenInOrder_fourBytes _ _ hlt (by omega) xs ys
  -- The greater character has more bytes, and so a greater mark in the first one.
  case inl.inr.inl | inl.inr.inr.inl | inl.inr.inr.inr | inr.inl.inr.inr.inl |
      inr.inl.inr.inr.inr | inr.inr.inl.inr.inr.inr =>
    refine cons_lt_cons_of_toNat_lt ?_ _ _
    simp only [leadByte, UInt8.toNat_ofNat']
    omega
  all_goals exact absurd hlt (by omega)

/-! ## Texts -/

/-- The first character in which two lists differ decides the order of their bytes. -/
theorem flatMap_utf8EncodeChar_lt {cs ds : List Char} (h : cs < ds) :
    cs.flatMap String.utf8EncodeChar < ds.flatMap String.utf8EncodeChar := by
  induction h with
  | @nil d ds =>
    rw [List.flatMap_cons]
    rcases utf8EncodeChar_cases d with ⟨-, h⟩ | ⟨-, -, h⟩ | ⟨-, -, h⟩ | ⟨-, -, h⟩ <;> rw [h] <;>
      exact List.nil_lt_cons _ _
  | rel h => exact utf8EncodeChar_append_lt h _ _
  | cons _ ih => exact List.append_left_lt ih

/-- Texts are in the order of their `bytesOf`. -/
theorem bytesOf_lt_iff {s t : String} : bytesOf s < bytesOf t ↔ s < t := by
  have hmono {s t : String} (h : s < t) : bytesOf s < bytesOf t := by
    rw [bytesOf_eq, bytesOf_eq]
    exact flatMap_utf8EncodeChar_lt h
  refine ⟨fun h => ?_, hmono⟩
  rcases lt_trichotomy s t with hlt | rfl | hgt
  · exact hlt
  · exact absurd h (List.lt_irrefl _)
  · exact absurd h (List.lt_asymm (hmono hgt))

end Text
end FirewallProbe
