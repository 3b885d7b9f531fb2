import FirewallProbe.Binary64.Basic

/-! # Shortest decimals

`shortest` gives the decimal `digits · 10 ^ power` with the fewest digits among those that round
to a given double, and of several such decimals the nearest one.  A decimal rounds to the double
if it lies in the interval between the midpoints to the two neighbouring doubles, whose ends
belong to it exactly if the mantissa is even. -/

namespace FirewallProbe.Binary64

/-- A positive decimal `digits · 10 ^ power`. -/
structure Decimal where
  digits : Nat
  power : Int
  deriving DecidableEq, Repr

/-- How an exact tie between two equally short decimals is resolved. -/
inductive Tie where
  | up
  | even
  deriving DecidableEq, Repr

/-- A double's value and the ends of its rounding interval, as multiples of one unit.  The unit is
`unitNum / unitDen`. -/
structure Interval where
  low : Nat
  mid : Nat
  high : Nat
  unitNum : Nat
  unitDen : Nat
  closed : Bool
  deriving DecidableEq, Repr

/-- The rounding interval of `mantissa · 2 ^ exponent`, in quarters of the last place.  Below a
power of two the doubles lie twice as close. -/
def Interval.of (mantissa : Nat) (exponent : Int) : Interval :=
  let below := if mantissa = 0x10000000000000 ∧ -1074 < exponent then 1 else 2
  let scale := exponent - 2
  { low := 4 * mantissa - below
    mid := 4 * mantissa
    high := 4 * mantissa + 2
    unitNum := Nat.pow 2 scale.toNat
    unitDen := Nat.pow 2 (-scale).toNat
    closed := mantissa % 2 == 0 }

/-- Whether `d.digits · 10 ^ d.power` lies in the interval. -/
def Interval.contains (i : Interval) (d : Decimal) : Bool :=
  let num := d.digits * Nat.pow 10 d.power.toNat * i.unitDen
  let den := Nat.pow 10 (-d.power).toNat * i.unitNum
  if i.closed then i.low * den ≤ num && num ≤ i.high * den
  else i.low * den < num && num < i.high * den

/-- The two multiples of `10 ^ power` around the value, the lower one first. -/
def Interval.neighbours (i : Interval) (power : Int) : Decimal × Decimal :=
  let num := i.mid * i.unitNum * Nat.pow 10 (-power).toNat
  let den := i.unitDen * Nat.pow 10 power.toNat
  (⟨num / den, power⟩, ⟨num / den + 1, power⟩)

/-- Of the two `neighbours` on one grid that lie in the interval, the nearer one; `tie` decides
between two that are equally near. -/
def Interval.pick? (i : Interval) (tie : Tie) (power : Int) : Option Decimal :=
  let num := i.mid * i.unitNum * Nat.pow 10 (-power).toNat
  let den := i.unitDen * Nat.pow 10 power.toNat
  let (lower, upper) := i.neighbours power
  match i.contains lower, i.contains upper with
  | false, false => none
  | true, false => some lower
  | false, true => some upper
  | true, true =>
    -- Twice the distance to the lower neighbour, against one step of the grid.
    let twice := 2 * (num % den)
    if twice < den then some lower
    else if den < twice then some upper
    else match tie with
      | .up => some upper
      | .even => if lower.digits % 2 = 0 then some lower else some upper

/-- Tries the grids `10 ^ power`, `10 ^ (power - 1)`, … and takes the first one with a hit. -/
def Interval.search (i : Interval) (tie : Tie) : Nat → Int → Option Decimal
  | 0, _ => none
  | fuel + 1, power =>
    match i.pick? tie power with
    | some d => some d
    | none => i.search tie fuel (power - 1)

/-- The exact value of `mantissa · 2 ^ exponent` as a decimal. -/
def Decimal.exact (mantissa : Nat) (exponent : Int) : Decimal :=
  if 0 ≤ exponent then ⟨mantissa * Nat.pow 2 exponent.toNat, 0⟩
  else ⟨mantissa * Nat.pow 5 (-exponent).toNat, exponent⟩

/-- An exponent of ten above that of every short decimal of `mantissa · 2 ^ exponent`. -/
def topPower (mantissa : Nat) (exponent : Int) : Int :=
  ((mantissa.log2 : Int) + 1 + exponent) * 30103 / 100000 + 2

/-- The shortest decimal that rounds to `mantissa · 2 ^ exponent`, of several the nearest. -/
def shortest (tie : Tie) (mantissa : Nat) (exponent : Int) : Decimal :=
  ((Interval.of mantissa exponent).search tie 24 (topPower mantissa exponent)).getD
    (Decimal.exact mantissa exponent)

end FirewallProbe.Binary64
