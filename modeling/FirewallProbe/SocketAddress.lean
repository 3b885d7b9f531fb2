/-! # Socket addresses

An address to listen on: four bytes and a port, or eight 16-bit groups between brackets, with an
optional scope, and a port.  `SocketAddress.parse?` reads every notation, `toText` writes the
canonical one: groups in lower-case hexadecimal digits without leading zeros, the first longest run
of at least two zero groups as `::`, and the last two groups of a mapped address as bytes. -/

namespace FirewallProbe

/-- An address with a port. -/
inductive SocketAddress where
  | v4 (bytes : List Nat) (port : Nat)
  | v6 (groups : List Nat) (scope port : Nat)
  deriving DecidableEq, Repr

namespace SocketAddress

/-- The value of the digit `c` in a `base` up to 16. -/
def digitValue? (base : Nat) (c : Char) : Option Nat :=
  let value :=
    if c.isDigit then some (c.toNat - 48)
    else if 97 ≤ c.toNat ∧ c.toNat ≤ 102 then some (c.toNat - 87)
    else if 65 ≤ c.toNat ∧ c.toNat ≤ 70 then some (c.toNat - 55)
    else none
  value.filter fun n => n < base

/-- The digits at the front of `cs`. -/
def digitsAt (base : Nat) (cs : List Char) : List Char :=
  cs.takeWhile fun c => (digitValue? base c).isSome

/-- The value of `digits` in the `base`. -/
def valueOf (base : Nat) (digits : List Char) : Nat :=
  digits.foldl (fun n c => base * n + (digitValue? base c).getD 0) 0

/-- Reads a number below `bound`, with at most `maxDigits` digits. -/
def readNumber? (base bound : Nat) (maxDigits : Option Nat) (cs : List Char) :
    Option (Nat × List Char) :=
  let digits := digitsAt base cs
  let fits := maxDigits.all fun most => digits.length ≤ most
  if digits.isEmpty || !fits || bound ≤ valueOf base digits then none
  else some (valueOf base digits, cs.drop digits.length)

/-- Reads a byte; it has no leading zeros. -/
def readByte? (cs : List Char) : Option (Nat × List Char) :=
  match cs with
  | '0' :: c :: _ => if c.isDigit then none else readNumber? 10 256 (some 3) cs
  | _ => readNumber? 10 256 (some 3) cs

/-- Reads the character `expected`. -/
def readChar? (expected : Char) : List Char → Option (List Char)
  | [] => none
  | c :: rest => if c = expected then some rest else none

/-- Reads four bytes with points between them. -/
def readBytes? (cs : List Char) : Option (List Nat × List Char) := do
  let (a, cs) ← readByte? cs
  let (b, cs) ← readByte? (← readChar? '.' cs)
  let (c, cs) ← readByte? (← readChar? '.' cs)
  let (d, cs) ← readByte? (← readChar? '.' cs)
  return ([a, b, c, d], cs)

/-- Reads a colon and a port. -/
def readPort? (cs : List Char) : Option (Nat × List Char) := do
  readNumber? 10 65536 none (← readChar? ':' cs)

/-- Reads the colon in front of a group that is not the `first`. -/
def readSeparator? (first : Bool) (cs : List Char) : Option (List Char) :=
  if first then some cs else readChar? ':' cs

/-- Reads groups with colons between them, up to a limit; four bytes may stand for the last two
groups.  Tells whether they did. -/
def readGroups : Nat → Bool → List Char → List Nat × Bool × List Char
  | 0, _, cs => ([], false, cs)
  | limit + 1, first, cs =>
    -- Four bytes take the place of two groups, so two must be left.
    match if 0 < limit then readSeparator? first cs >>= readBytes? else none with
    | some (bytes, rest) =>
      match bytes with
      | [a, b, c, d] => ([256 * a + b, 256 * c + d], true, rest)
      | _ => ([], true, rest)
    | none =>
      match readSeparator? first cs >>= readNumber? 16 65536 (some 4) with
      | some (n, rest) =>
        let (groups, bytes, rest) := readGroups limit false rest
        (n :: groups, bytes, rest)
      | none => ([], false, cs)

/-- Reads eight groups; `::` stands for one or more zero groups. -/
def readAllGroups? (cs : List Char) : Option (List Nat × List Char) := do
  let (front, bytes, cs) := readGroups 8 true cs
  if front.length = 8 then return (front, cs)
  -- Bytes may only stand at the end.
  if bytes then none
  let cs ← readChar? ':' cs
  let cs ← readChar? ':' cs
  let (back, _, cs) := readGroups (7 - front.length) true cs
  return (front ++ List.replicate (8 - front.length - back.length) 0 ++ back, cs)

/-- Reads an optional scope. -/
def readScope (cs : List Char) : Nat × List Char :=
  match readChar? '%' cs >>= readNumber? 10 0x100000000 none with
  | some result => result
  | none => (0, cs)

/-- Reads an address of four bytes. -/
def readV4? (cs : List Char) : Option (SocketAddress × List Char) := do
  let (bytes, cs) ← readBytes? cs
  let (port, cs) ← readPort? cs
  return (.v4 bytes port, cs)

/-- Reads an address of eight groups. -/
def readV6? (cs : List Char) : Option (SocketAddress × List Char) := do
  let (groups, cs) ← readAllGroups? (← readChar? '[' cs)
  let (scope, cs) := readScope cs
  let (port, cs) ← readPort? (← readChar? ']' cs)
  return (.v6 groups scope port, cs)

/-- Reads a text that is an address. -/
def parse? (text : String) : Option SocketAddress :=
  match (readV4? text.toList).or (readV6? text.toList) with
  | some (address, []) => some address
  | _ => none

/-- The length of the run of zeros at the front of `groups`. -/
def zeroRun (groups : List Nat) : Nat := (groups.takeWhile (· == 0)).length

/-- The start and the length of the first longest run of zeros. -/
def longestZeroRun : Nat → List Nat → Nat × Nat
  | _, [] => (0, 0)
  | start, g :: rest =>
    let here := zeroRun (g :: rest)
    let (place, length) := longestZeroRun (start + 1) rest
    if length ≤ here then (start, here) else (place, length)

/-- The `groups` with colons between them. -/
def groupsText (groups : List Nat) : String :=
  ":".intercalate (groups.map fun g => String.ofList (Nat.toDigits 16 g))

/-- The `bytes` with points between them. -/
def bytesText (bytes : List Nat) : String := ".".intercalate (bytes.map toString)

/-- The canonical text of eight `groups`. -/
def addressText (groups : List Nat) : String :=
  match groups with
  | [0, 0, 0, 0, 0, 0xFFFF, a, b] => "::ffff:" ++ bytesText [a / 256, a % 256, b / 256, b % 256]
  | groups =>
    let (start, length) := longestZeroRun 0 groups
    if 1 < length then
      groupsText (groups.take start) ++ "::" ++ groupsText (groups.drop (start + length))
    else groupsText groups

/-- The canonical text of an address. -/
def toText : SocketAddress → String
  | v4 bytes port => s!"{bytesText bytes}:{port}"
  | v6 groups scope port =>
    if scope = 0 then s!"[{addressText groups}]:{port}"
    else s!"[{addressText groups}%{scope}]:{port}"

end SocketAddress
end FirewallProbe
