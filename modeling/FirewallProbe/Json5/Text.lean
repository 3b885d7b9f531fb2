import FirewallProbe.Json5.Basic
import FirewallProbe.Schema.Mismatch

/-! # Texts of a JSON5 document

`TextUnit.decode` gives the characters that written units stand for.  A 16-bit unit from the range
of lead surrogates takes the unit after it as its trail. -/

namespace FirewallProbe.TextUnit

/-- The character that a backslash with `letter` stands for. -/
def escapedChar (letter : Char) : Char :=
  if letter = 'b' then '\x08'
  else if letter = 'f' then '\x0c'
  else if letter = 'n' then '\n'
  else if letter = 'r' then '\r'
  else if letter = 't' then '\t'
  else if letter = 'v' then '\x0b'
  else letter

/-- Whether `c` is a hexadecimal digit. -/
def isHexDigit (c : Char) : Bool :=
  c.isDigit || (97 ≤ c.toNat && c.toNat ≤ 102) || (65 ≤ c.toNat && c.toNat ≤ 70)

/-- Whether a unit is written with hexadecimal digits alone. -/
def isHex : TextUnit → Bool
  | literal c => isHexDigit c
  | escape letter => isHexDigit letter
  | code _ => true
  | unit _ => true

/-- Whether the 16-bit unit `n` opens a pair. -/
def isLead (n : Nat) : Bool := 0xD800 ≤ n && n ≤ 0xDBFF

/-- Whether the 16-bit unit `n` closes a pair. -/
def isTrail (n : Nat) : Bool := 0xDC00 ≤ n && n ≤ 0xDFFF

/-- The code point of a pair: the ten low bits of the lead, then those of the trail, and bit 16 set.
Where the lead has that bit already, which is in the pairs of an even plane, the character is thus
that at the same place of the plane below. -/
def pairCode (lead trail : Nat) : Nat := (lead - 0xD800) * 1024 ||| (trail - 0xDC00 + 0x10000)

/-- The characters that units stand for. -/
def decode : List TextUnit → Except SurrogateFault (List Char)
  | [] => .ok []
  | literal c :: rest => do return c :: (← decode rest)
  | escape letter :: rest => do return escapedChar letter :: (← decode rest)
  | code n :: rest => do return Char.ofNat n :: (← decode rest)
  | [unit n] =>
    if isLead n then .error .missingTrail
    else if isTrail n then .error .unexpectedTrail
    else .ok [Char.ofNat n]
  | unit n :: next :: rest =>
    if isLead n then
      match next with
      | unit trail =>
        if isTrail trail then do return Char.ofNat (pairCode n trail) :: (← decode rest)
        else .error .expectedTrail
      | other => .error (if other.isHex then .expectedTrail else .notHex)
    else if isTrail n then .error .unexpectedTrail
    else do return Char.ofNat n :: (← decode (next :: rest))

end FirewallProbe.TextUnit
