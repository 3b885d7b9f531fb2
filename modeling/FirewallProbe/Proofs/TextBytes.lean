/-!
# Texts seen as bytes

The characters of a text are decoded from its bytes, one after the other, which is a long way to go
for a name that is known.  A text of ASCII characters can be read off its bytes, and two texts
differ if the numbers made of their bytes do.

## Key results

- `bytesOf_eq`: the bytes of a text are those of its characters, one after the other
- `toList_of_bytesOf`: a text of small bytes has one character for each byte
-/

namespace FirewallProbe
namespace Text

/-- The bytes of a text in UTF-8. -/
def bytesOf (s : String) : List UInt8 := s.toByteArray.data.toList

/-- The number whose digits are the bytes of a text. -/
def numberOf (s : String) : Nat := (bytesOf s).foldl (fun n b => 256 * n + b.toNat) 0

/-- `bytesOf` writes one character after the other. -/
theorem bytesOf_eq (s : String) : bytesOf s = s.toList.flatMap String.utf8EncodeChar := by
  rw [bytesOf, ← String.utf8Encode_toList, List.utf8Encode, List.toList_data_toByteArray]

/-- A character whose bytes are small has one byte only, which is the character. -/
private theorem map_utf8EncodeChar {c : Char}
    (h : ∀ b ∈ String.utf8EncodeChar c, b.toNat < 128) :
    (String.utf8EncodeChar c).map (fun b => Char.ofNat b.toNat) = [c] := by
  unfold String.utf8EncodeChar at h ⊢
  by_cases hsmall : c.val.toNat ≤ 0x7f
  · have hbyte : (UInt8.ofNat c.val.toNat).toNat = c.toNat :=
      UInt8.toNat_ofNat_of_lt (Nat.lt_of_le_of_lt hsmall (by decide))
    simp only [hsmall, if_true, List.map_cons, List.map_nil, hbyte, Char.ofNat_toNat]
  · -- The first of several bytes is at least 192.
    simp only [hsmall, if_false] at h
    split at h
    · have hfirst := h _ List.mem_cons_self
      simp only [UInt8.toNat_ofNat'] at hfirst
      omega
    · split at h
      · have hfirst := h _ List.mem_cons_self
        simp only [UInt8.toNat_ofNat'] at hfirst
        omega
      · have hfirst := h _ List.mem_cons_self
        simp only [UInt8.toNat_ofNat'] at hfirst
        omega

/-- A text whose `bytesOf` are below 128 has one character for each byte. -/
theorem toList_of_bytesOf {s : String} (h : ∀ b ∈ bytesOf s, b.toNat < 128) :
    s.toList = (bytesOf s).map fun b => Char.ofNat b.toNat := by
  rw [bytesOf_eq] at h ⊢
  generalize s.toList = cs at h ⊢
  induction cs with
  | nil => rfl
  | cons c rest ih =>
    rw [List.flatMap_cons] at h
    have hfirst : ∀ b ∈ String.utf8EncodeChar c, b.toNat < 128 := fun b hb =>
      h b (List.mem_append_left _ hb)
    have hrest := ih fun b hb => h b (List.mem_append_right _ hb)
    rw [List.flatMap_cons, List.map_append, map_utf8EncodeChar hfirst, ← hrest]
    rfl

end Text
end FirewallProbe
