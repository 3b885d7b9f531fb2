import FirewallProbe.Binary64.Reading
import FirewallProbe.Json.Basic
import FirewallProbe.Json.Fault

/-! # JSON numbers

A number without fraction and exponent is an integer as long as it is one of those kept exactly.
Any other number is the double nearest its significand, scaled by one multiplication or division
by a power of ten.  Digits that would carry the significand past `2 ^ 64 - 1` are not read into it;
before the point each of them counts for a factor of ten. -/

namespace FirewallProbe.Json

/-- The largest significand. -/
def maxSignificand : Nat := 0xFFFFFFFFFFFFFFFF

/-- Whether the byte `b` is a decimal digit. -/
def isDigit (b : UInt8) : Bool := 48 ≤ b && b ≤ 57

/-- The value of the digit `b`. -/
def digitValue (b : UInt8) : Nat := b.toNat - 48

/-- Reads digits into a significand up to `maxSignificand`; also gives the number of digits read,
those left over, and the bytes after the whole run. -/
def readDigits : Nat → List UInt8 → Nat × Nat × Nat × List UInt8
  | significand, [] => (significand, 0, 0, [])
  | significand, b :: rest =>
    if isDigit b then
      let next := 10 * significand + digitValue b
      if maxSignificand < next then
        let run := (b :: rest).takeWhile isDigit
        (significand, 0, run.length, (b :: rest).dropWhile isDigit)
      else
        let (s, count, left, rest) := readDigits next rest
        (s, count + 1, left, rest)
    else (significand, 0, 0, b :: rest)

/-- The power `10 ^ n` as a double. -/
def powerOfTen (n : Nat) : Float := Binary64.ofDecimal 1 n

/-- Scales by a power of ten in steps of at most `10 ^ 308`; too large a result is none. -/
def scale : Nat → Float → Int → Option Float
  | 0, x, _ => some x
  | fuel + 1, x, power =>
    if power.natAbs ≤ 308 then
      if 0 ≤ power then
        let y := x * powerOfTen power.toNat
        if y.isInf then none else some y
      else some (x / powerOfTen power.natAbs)
    -- Zero stays zero, and nothing else of so large a power is finite.
    else if x == 0.0 then some x
    else if 0 ≤ power then none
    else scale fuel (x / powerOfTen 308) (power + 308)

/-- The double `significand · 10 ^ power`, if it is not too large. -/
def scaled (negative : Bool) (significand : Nat) (power : Int) : Option Float :=
  (scale 8 (Binary64.ofInt significand) power).map fun x => if negative then -x else x

/-- The largest exponent that is read. -/
def maxExponent : Int := 0x7FFFFFFF

/-- The smallest exponent that is read. -/
def minExponent : Int := -0x80000000

/-- Keeps the exponent `n` in the 32-bit range. -/
def clampExponent (n : Int) : Int :=
  if n < minExponent then minExponent else if maxExponent < n then maxExponent else n

/-- The double `significand · 10 ^ power` at the place where its text ends. -/
def readScaled (negative : Bool) (significand : Nat) (power : Int) (rest : List UInt8) :
    Except Fault (Json × List UInt8) :=
  match scaled negative significand power with
  | some x => .ok (.float x, rest)
  | none => .error ⟨.numberTooLarge, rest⟩

/-- Reads the digits of an exponent up to the first that leaves the 32-bit range. -/
def readExponentDigits : Nat → List UInt8 → Nat × Bool × List UInt8
  | n, [] => (n, false, [])
  | n, b :: rest =>
    if isDigit b then
      let next := 10 * n + digitValue b
      if maxExponent < next then (n, true, rest) else readExponentDigits next rest
    else (n, false, b :: rest)

/-- Reads what follows the letter of an exponent, which moves `power`. -/
def readExponent (negative : Bool) (significand : Nat) (power : Int) (bytes : List UInt8) :
    Except Fault (Json × List UInt8) :=
  let (down, bytes) := match bytes with
    | 43 :: rest => (false, rest)
    | 45 :: rest => (true, rest)
    | rest => (false, rest)
  match bytes with
  | [] => .error ⟨.endInValue, []⟩
  | b :: rest =>
    if isDigit b then
      match readExponentDigits (digitValue b) rest with
      | (n, false, rest) =>
        readScaled negative significand (clampExponent (if down then power - n else power + n)) rest
      | (_, true, rest) =>
        -- The exponent alone decides: the number is out of range or rounds to zero.
        if significand ≠ 0 ∧ !down then .error ⟨.numberTooLarge, rest⟩
        else .ok (.float (if negative then -0.0 else 0.0), rest.dropWhile isDigit)
    else .error ⟨.badNumber, rest⟩

/-- Reads an exponent if there is one. -/
def readOptionalExponent (negative : Bool) (significand : Nat) (power : Int)
    (bytes : List UInt8) : Except Fault (Json × List UInt8) :=
  match bytes with
  | 101 :: rest | 69 :: rest => readExponent negative significand power rest
  | rest => readScaled negative significand power rest

/-- Reads the digits after a point, each of which lowers `power`. -/
def readFraction (negative : Bool) (significand : Nat) (power : Int) (bytes : List UInt8) :
    Except Fault (Json × List UInt8) :=
  match bytes with
  | [] => .error ⟨.endInValue, []⟩
  | b :: _ =>
    if isDigit b then
      let (s, count, _, rest) := readDigits significand bytes
      readOptionalExponent negative s (power - count) rest
    else .error (.atNext .badNumber bytes)

/-- The whole number `n` without fraction and exponent. -/
def wholeNumber (negative : Bool) (n : Nat) : Json :=
  if negative then
    if 0 < n ∧ isExact (-(n : Int)) then .int (-(n : Int)) else .float (-(Binary64.ofInt n))
  else .int n

/-- Reads what follows the digits before the point, of which `dropped` did not fit into the
significand. -/
def readAfterWhole (negative : Bool) (significand dropped : Nat) (bytes : List UInt8) :
    Except Fault (Json × List UInt8) :=
  match bytes with
  | 46 :: rest => readFraction negative significand dropped rest
  | 101 :: rest | 69 :: rest => readExponent negative significand dropped rest
  | rest =>
    if dropped = 0 then .ok (wholeNumber negative significand, rest)
    else readScaled negative significand dropped rest

/-- Reads a number after its sign. -/
def readNumber (negative : Bool) (bytes : List UInt8) : Except Fault (Json × List UInt8) :=
  match bytes with
  | [] => .error ⟨.endInValue, []⟩
  | 48 :: rest =>
    -- No digit may follow a leading zero.
    match rest with
    | b :: _ =>
      if isDigit b then .error (.atNext .badNumber rest) else readAfterWhole negative 0 0 rest
    | [] => readAfterWhole negative 0 0 []
  | b :: rest =>
    if isDigit b then
      let (s, _, dropped, rest) := readDigits 0 (b :: rest)
      readAfterWhole negative s dropped rest
    else .error ⟨.badNumber, rest⟩

end FirewallProbe.Json
