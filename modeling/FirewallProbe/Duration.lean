/-! # Durations

A duration is a number of whole seconds and of nanoseconds below one second. -/

namespace FirewallProbe

/-- A span of time. -/
structure Duration where
  seconds : Nat
  nanoseconds : Nat
  nanoseconds_lt : nanoseconds < 1000000000

namespace Duration

/-- The duration of any number of `seconds` and `nanoseconds` together. -/
def of (seconds nanoseconds : Nat) : Duration :=
  ⟨seconds + nanoseconds / 1000000000, nanoseconds % 1000000000, Nat.mod_lt _ (by decide)⟩

/-- A duration of whole seconds. -/
def ofSeconds (n : Nat) : Duration := ⟨n, 0, by decide⟩

instance : Inhabited Duration := ⟨ofSeconds 0⟩

/-- The length in nanoseconds. -/
def toNanoseconds (d : Duration) : Nat := d.seconds * 1000000000 + d.nanoseconds

/-- What is left of `d` after `other`; nothing if `other` is longer. -/
def minus (d other : Duration) : Duration := .of 0 (d.toNanoseconds - other.toNanoseconds)

/-- The shorter of `d` and `other`. -/
def shorter (d other : Duration) : Duration :=
  if d.toNanoseconds ≤ other.toNanoseconds then d else other

/-- Whether a duration is empty. -/
def isZero (d : Duration) : Bool := d.toNanoseconds == 0

/-- The number of whole milliseconds. -/
def toMilliseconds (d : Duration) : Nat := d.toNanoseconds / 1000000

/-- The sum of `d` and `other`, if its seconds fit in 64 bits. -/
def add? (d other : Duration) : Option Duration :=
  let sum := Duration.of 0 (d.toNanoseconds + other.toNanoseconds)
  if sum.seconds < 0x10000000000000000 then some sum else none

end Duration

/-- A point in time, counted from a fixed point. -/
structure Instant where
  seconds : Int
  nanoseconds : Nat
  nanoseconds_lt : nanoseconds < 1000000000

namespace Instant

/-- The point in time that is `d` after `start`, if its seconds fit in 64 bits with sign. -/
def add? (start : Instant) (d : Duration) : Option Instant :=
  let nanoseconds := start.nanoseconds + d.nanoseconds
  let seconds := start.seconds + d.seconds + (nanoseconds / 1000000000 : Nat)
  if seconds < 0x8000000000000000 then
    some ⟨seconds, nanoseconds % 1000000000, Nat.mod_lt _ (by decide)⟩
  else none

end Instant
end FirewallProbe
