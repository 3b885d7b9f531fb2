import FirewallProbe.Binary64.Shortest

/-! # Short decimals from 64-bit products

`nearShortest` gives a decimal that rounds to a given double and is short, but not always as short
or as near as `shortest`.  The double and the ends of its rounding interval are multiplied by one
power of ten, all of them held to 64 bits, such that at most nine digits stand before the point.
The upper end is then cut off at the highest place where the part cut off fits into the interval.
Above the ninth place after the point the last digit goes down as long as that leads nearer to the
double; from there on it stays, and the decimal lies at the upper end of the interval. -/

namespace FirewallProbe.Binary64

/-- The positive number `significand · 2 ^ exponent`. -/
structure Scaled where
  significand : Nat
  exponent : Int
  deriving DecidableEq, Repr

namespace Scaled

/-- The number `x` with a significand of exactly 64 bits, if it has no more than that. -/
def normalize (x : Scaled) : Scaled :=
  let shift := 63 - x.significand.log2
  ⟨x.significand * Nat.pow 2 shift, x.exponent - shift⟩

/-- The number `x` with a lower `exponent`. -/
def withExponent (x : Scaled) (exponent : Int) : Scaled :=
  ⟨x.significand * Nat.pow 2 (x.exponent - exponent).toNat, exponent⟩

/-- The product of `x` and `y` without its 64 lowest bits, a half rounded up. -/
def mul (x y : Scaled) : Scaled :=
  ⟨(x.significand * y.significand + 0x8000000000000000) / 0x10000000000000000,
    x.exponent + y.exponent + 64⟩

/-- `10 ^ power` with a significand of 64 bits, a half rounded up. -/
def powerOfTen (power : Int) : Scaled :=
  let num := Nat.pow 10 power.toNat
  let den := Nat.pow 10 (-power).toNat
  let exponent : Int := if 0 ≤ power then num.log2 - 63 else -64 - den.log2
  let twice := 2 * num * Nat.pow 2 (-exponent).toNat / (den * Nat.pow 2 exponent.toNat)
  ⟨(twice + 1) / 2, exponent⟩

end Scaled

/-- The least power of ten among …, -12, -4, 4, 12, … whose product with a normalized number of the
given `exponent` has an exponent of at least -60.  That exponent is at most -32 then. -/
def scalingPower (exponent : Int) : Int :=
  let least := -((exponent + 61) * 30103 / 100000)
  4 + 8 * ((least + 3) / 8)

/-- A scaled rounding interval, in units of which `one` make up one: its upper end, its width, and
how far the double lies below the upper end. -/
structure Window where
  upper : Nat
  width : Nat
  depth : Nat
  one : Nat
  deriving DecidableEq, Repr

namespace Window

/-- The rounding interval of `mantissa · 2 ^ exponent`, multiplied by the power of ten `ten`.  A
product may be off by a unit, so the ends are drawn in by one. -/
def of (mantissa : Nat) (exponent : Int) (ten : Scaled) : Window :=
  let above := Scaled.normalize ⟨2 * mantissa + 1, exponent - 1⟩
  -- Below a power of two the doubles lie twice as close.
  let below := Scaled.withExponent
    (if mantissa = 0x10000000000000 then ⟨4 * mantissa - 1, exponent - 2⟩
      else ⟨2 * mantissa - 1, exponent - 1⟩) above.exponent
  let upper := (above.mul ten).significand - 1
  { upper := upper
    width := upper - ((below.mul ten).significand + 1)
    depth := upper - ((Scaled.normalize ⟨mantissa, exponent⟩).mul ten).significand
    one := Nat.pow 2 (-(above.mul ten).exponent).toNat }

/-- Lowers the last digit while that stays in the interval and leads below the upper end but nearer
to the double; `cut` is the distance from the upper end.  The last digit is never lowered past
zero, so nine steps are enough. -/
def lower (unit width depth : Nat) : Nat → Nat → Nat → Nat
  | 0, digits, _ => digits
  | fuel + 1, digits, cut =>
    if cut < depth ∧ unit ≤ width - cut ∧
        (cut + unit < depth ∨ cut + unit - depth < depth - cut) then
      lower unit width depth fuel (digits - 1) (cut + unit)
    else digits

/-- Cuts the upper end of `w` off at a `place`, if the part cut off fits into the interval. -/
def cutAt? (w : Window) (place : Int) : Option Nat :=
  let unit := Nat.pow 10 place.toNat * w.one
  let scale := Nat.pow 10 (-place).toNat
  let width := w.width * scale
  let cut := w.upper * scale % unit
  -- A part as wide as the interval fits before the point only.
  if cut < width ∨ 0 ≤ place ∧ cut = width then
    let depth := if -9 < place then w.depth * scale else 0
    some (lower unit width depth 9 (w.upper * scale / unit) cut)
  else none

/-- Tries one place after the other, from the given one downwards. -/
def search (w : Window) : Nat → Int → Option Decimal
  | 0, _ => none
  | fuel + 1, place =>
    match w.cutAt? place with
    | some digits => some ⟨digits, place⟩
    | none => w.search fuel (place - 1)

end Window

/-- A short decimal that rounds to `mantissa · 2 ^ exponent`. -/
def nearShortest (mantissa : Nat) (exponent : Int) : Decimal :=
  let power := scalingPower (Scaled.normalize ⟨2 * mantissa + 1, exponent - 1⟩).exponent
  match (Window.of mantissa exponent (Scaled.powerOfTen power)).search 32 9 with
  | some d => ⟨d.digits, d.power - power⟩
  | none => Decimal.exact mantissa exponent

end FirewallProbe.Binary64
