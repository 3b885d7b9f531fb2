/-! # Firmware versions

A firmware version has a major and a minor number, both 32 bits wide, and is compared
lexicographically.  `Firmware.parse?` reads a version string such as `v7.0.12`; only its front, up
to the second point, is looked at. -/

namespace FirewallProbe

/-- A firmware version. -/
structure Firmware where
  major : UInt32
  minor : UInt32
  deriving DecidableEq, Repr

namespace Firmware

/-- Whether this version is at least `least`. -/
def satisfies (v least : Firmware) : Bool :=
  least.major < v.major || (v.major == least.major && least.minor ≤ v.minor)

/-- The text `v<major>.<minor>`. -/
def toText (v : Firmware) : String := s!"v{v.major.toNat}.{v.minor.toNat}"

/-- The characters before the first point and those after it. -/
def splitAtPoint? : List Char → Option (List Char × List Char)
  | [] => none
  | c :: rest =>
    if c = '.' then some ([], rest)
    else (splitAtPoint? rest).map fun (before, after) => (c :: before, after)

/-- Reads a number of ASCII digits that are all of `cs`, if it fits in 32 bits; leading zeros are
allowed. -/
def readNumber? (cs : List Char) : Option UInt32 :=
  if cs.isEmpty || !cs.all Char.isDigit then none
  else
    let n := cs.foldl (fun n c => 10 * n + (c.toNat - '0'.toNat)) 0
    if n < 0x100000000 then some (UInt32.ofNat n) else none

/-- Reads `v<major>.<minor>.` at the front of `text`; anything may follow. -/
def parse? (text : String) : Option Firmware :=
  match text.toList with
  | 'v' :: rest => do
    let (major, rest) ← splitAtPoint? rest
    let (minor, _) ← splitAtPoint? rest
    return ⟨← readNumber? major, ← readNumber? minor⟩
  | _ => none

/-- Whether firmware that may not be `known` is at least `least`; unknown firmware meets no
requirement. -/
def meets (known : Option Firmware) (least : Firmware) : Bool := known.any (·.satisfies least)

/-- The firmware from which IPv4 and IPv6 policies share one endpoint. -/
def combinedPolicies : Firmware := ⟨6, 4⟩

end Firmware

/-- Choices between endpoints that depend on the firmware. -/
structure EndpointPolicy where
  /-- Statistics of both protocols come from one endpoint that takes the protocol as a parameter,
  and the configuration of both from one table. -/
  combinedPolicies : Bool
  deriving DecidableEq, Repr

/-- The choices for `firmware` that may be unknown. -/
def EndpointPolicy.of (firmware : Option Firmware) : EndpointPolicy :=
  ⟨Firmware.meets firmware Firmware.combinedPolicies⟩

end FirewallProbe
