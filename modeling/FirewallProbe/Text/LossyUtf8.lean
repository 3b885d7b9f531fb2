/-! # Reading UTF-8 that may be damaged

`decodeLossy` reads bytes as UTF-8.  Where they are not, the longest run of bytes that a character
could start with, or else a single byte, becomes one replacement character. -/

namespace FirewallProbe.Text

/-- The character in the place of bytes that are no character. -/
def replacement : Char := '\uFFFD'

/-- The bounds of a byte that goes on with a character. -/
abbrev ByteRange := UInt8 × UInt8

/-- The usual bounds. -/
def anyTail : ByteRange := (0x80, 0xBF)

/-- What may follow the byte `first` of a character, byte by byte; a byte that starts none has no
answer. -/
def tailRanges? (first : UInt8) : Option (List ByteRange) :=
  if first < 0x80 then some []
  else if 0xC2 ≤ first && first ≤ 0xDF then some [anyTail]
  else if first == 0xE0 then some [(0xA0, 0xBF), anyTail]
  else if first == 0xED then some [(0x80, 0x9F), anyTail]
  else if 0xE1 ≤ first && first ≤ 0xEF then some [anyTail, anyTail]
  else if first == 0xF0 then some [(0x90, 0xBF), anyTail, anyTail]
  else if 0xF1 ≤ first && first ≤ 0xF3 then some [anyTail, anyTail, anyTail]
  else if first == 0xF4 then some [(0x80, 0x8F), anyTail, anyTail]
  else none

/-- Takes bytes as long as they stay in their bounds; tells whether all bounds were met. -/
def takeTail : List ByteRange → List UInt8 → List UInt8 × Bool
  | [], _ => ([], true)
  | _ :: _, [] => ([], false)
  | (low, high) :: ranges, b :: rest =>
    if low ≤ b && b ≤ high then
      let (taken, complete) := takeTail ranges rest
      (b :: taken, complete)
    else ([], false)

/-- The payload of the byte `first` when so many `others` follow. -/
def leadBits (first : UInt8) (others : Nat) : Nat :=
  if others = 0 then first.toNat else first.toNat % Nat.pow 2 (6 - others)

/-- The character of the byte `first` and the `others`. -/
def charOf (first : UInt8) (others : List UInt8) : Char :=
  Char.ofNat (others.foldl (fun n b => 64 * n + b.toNat % 64) (leadBits first others.length))

/-- Reads bytes as UTF-8. -/
def decodeLossy : List UInt8 → List Char
  | [] => []
  | first :: rest =>
    match tailRanges? first with
    | none => replacement :: decodeLossy rest
    | some ranges =>
      -- Where the bounds are not met, all that met them is replaced at once.
      let (taken, complete) := takeTail ranges rest
      (if complete then charOf first taken else replacement) ::
        decodeLossy (rest.drop taken.length)
termination_by bytes => bytes.length
decreasing_by
  · exact Nat.lt_succ_self _
  · simp only [List.length_drop, List.length_cons]; omega

end FirewallProbe.Text
