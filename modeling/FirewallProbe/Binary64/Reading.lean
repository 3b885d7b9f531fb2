import FirewallProbe.Binary64.Basic

/-! # Reading doubles from text

`ofDecimal` is the double nearest a decimal, and `read?` reads the usual spellings of a number:
an optional sign, digits with an optional point and exponent, or the words `inf`, `infinity` and
`nan` in any case. -/

namespace FirewallProbe.Binary64

/-- The double nearest `digits · 10 ^ power`, ties to even; too large a value is infinite. -/
def ofDecimal (digits : Nat) (power : Int) : Float :=
  if digits = 0 then 0.0
  else
    -- Far outside the range of doubles the digits no longer matter.
    let point := (Nat.toDigits 10 digits).length + power
    if 310 < point then Float.ofScientific 1 false 400
    else if point < -330 then 0.0
    else if 0 ≤ power then Float.ofScientific digits false power.toNat
    else Float.ofScientific digits true (-power).toNat

/-- The double nearest the integer `n`. -/
def ofInt (n : Int) : Float :=
  if n < 0 then -(ofDecimal n.natAbs 0) else ofDecimal n.natAbs 0

/-- The value of a run of decimal digits `cs` after those already read, which have the value
`start`. -/
def digitsValue (start : Nat) (cs : List Char) : Nat :=
  cs.foldl (fun n c => 10 * n + (c.toNat - '0'.toNat)) start

/-- Reads an optionally signed run of digits that is all of `cs`. -/
def readExponent? (cs : List Char) : Option Int :=
  let (negative, ds) := match cs with
    | '-' :: rest => (true, rest)
    | '+' :: rest => (false, rest)
    | rest => (false, rest)
  if ds.isEmpty || !ds.all Char.isDigit then none
  else some (if negative then -(digitsValue 0 ds : Int) else digitsValue 0 ds)

/-- Reads an unsigned decimal with at least one digit before the exponent, which is all of `cs`. -/
def readDecimal? (cs : List Char) : Option Float :=
  let whole := cs.takeWhile Char.isDigit
  let rest := cs.dropWhile Char.isDigit
  let (fraction, rest) := match rest with
    | '.' :: rest => (rest.takeWhile Char.isDigit, rest.dropWhile Char.isDigit)
    | rest => ([], rest)
  if whole.isEmpty && fraction.isEmpty then none
  else
    let digits := digitsValue (digitsValue 0 whole) fraction
    match rest with
    | [] => some (ofDecimal digits (-fraction.length))
    | c :: rest =>
      if c = 'e' ∨ c = 'E' then
        (readExponent? rest).map fun power => ofDecimal digits (power - fraction.length)
      else none

/-- Reads a number word in any case. -/
def readWord? (cs : List Char) : Option Float :=
  let word := String.ofList (cs.map Char.toLower)
  if word = "inf" ∨ word = "infinity" then some (Float.ofScientific 1 false 400)
  else if word = "nan" then some (0.0 / 0.0)
  else none

/-- Reads a double that is all of `cs`. -/
def read? (cs : List Char) : Option Float :=
  let unsigned := fun ds => (readDecimal? ds).orElse fun _ => readWord? ds
  match cs with
  | '-' :: rest => (unsigned rest).map fun x => -x
  | '+' :: rest => unsigned rest
  | rest => unsigned rest

end FirewallProbe.Binary64
