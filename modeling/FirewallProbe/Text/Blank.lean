/-! # Blank characters

The characters with the Unicode property `White_Space`, and trimming by them.
`trim` removes a blank run from both ends and leaves the inside alone. -/

namespace FirewallProbe.Text

/-- Whether `c` has the Unicode property `White_Space`. -/
def isBlank (c : Char) : Bool :=
  let n := c.toNat
  (9 ≤ n && n ≤ 13) || n == 0x20 || n == 0x85 || n == 0xA0 || n == 0x1680 ||
    (0x2000 ≤ n && n ≤ 0x200A) || n == 0x2028 || n == 0x2029 || n == 0x202F || n == 0x205F ||
    n == 0x3000

/-- Removes the longest run at the end whose characters satisfy `p`. -/
def dropTrailing (p : Char → Bool) (cs : List Char) : List Char :=
  (cs.reverse.dropWhile p).reverse

/-- Removes blanks from both ends of `cs`. -/
def trimChars (cs : List Char) : List Char :=
  dropTrailing isBlank (cs.dropWhile isBlank)

/-- Removes blanks from both ends of `s`. -/
def trim (s : String) : String := String.ofList (trimChars s.toList)

end FirewallProbe.Text
