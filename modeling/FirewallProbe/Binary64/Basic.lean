/-! # Doubles as exact rationals

A finite double is `± mantissa · 2 ^ exponent` with a natural mantissa below `2 ^ 53` and a sign
that zero has too.  `Binary64.ofFloat` reads these parts off the bit pattern; printing works on
them in exact integer arithmetic. -/

namespace FirewallProbe

/-- The meaning of a double's bit pattern. -/
inductive Binary64 where
  | nan
  | infinite (negative : Bool)
  | finite (negative : Bool) (mantissa : Nat) (exponent : Int)
  deriving DecidableEq, Repr

namespace Binary64

/-- Reads sign, mantissa and exponent off the 64 `bits`. -/
def ofBits (bits : UInt64) : Binary64 :=
  let n := bits.toNat
  let negative := decide (0x8000000000000000 ≤ n)
  let biased : Nat := n / 0x10000000000000 % 2048
  let fraction := n % 0x10000000000000
  if biased = 2047 then
    if fraction = 0 then .infinite negative else .nan
  else if biased = 0 then .finite negative fraction (-1074)
  else .finite negative (0x10000000000000 + fraction) ((biased : Int) - 1075)

/-- The parts of the double `x`. -/
def ofFloat (x : Float) : Binary64 := ofBits x.toBits

/-- Whether `mantissa · 2 ^ exponent` is a whole number. -/
def isWhole (mantissa : Nat) (exponent : Int) : Bool :=
  0 ≤ exponent || mantissa % Nat.pow 2 (-exponent).toNat == 0

/-- The whole number `mantissa · 2 ^ exponent`, rounded down where it has a fraction. -/
def wholePart (mantissa : Nat) (exponent : Int) : Nat :=
  if 0 ≤ exponent then mantissa * Nat.pow 2 exponent.toNat
  else mantissa / Nat.pow 2 (-exponent).toNat

end Binary64
end FirewallProbe
