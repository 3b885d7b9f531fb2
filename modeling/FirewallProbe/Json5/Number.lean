import FirewallProbe.Binary64.Reading
import FirewallProbe.Json5.Basic
import FirewallProbe.Schema.Mismatch

/-! # Numbers of a JSON5 document

What a written number stands for where a double or a word is wanted, and what it counts as where
something else is wanted.  Hexadecimal numbers have no sign and at most 32 bits, words named as
infinite or not a number have no plus sign, and a decimal must not overflow. -/

namespace FirewallProbe.NumberLiteral

/-- The value of the hexadecimal digit `c`. -/
def hexDigitValue (c : Char) : Nat :=
  if c.isDigit then c.toNat - 48 else if c.isUpper then c.toNat - 55 else c.toNat - 87

/-- The value of the hexadecimal `digits`. -/
def hexValue (digits : List Char) : Nat := digits.foldl (fun n c => 16 * n + hexDigitValue c) 0

/-- The value of the hexadecimal `digits`, if it fits in 32 bits. -/
def hexWord (digits : List Char) : Except NumberFault Nat :=
  if hexValue digits < 0x100000000 then .ok (hexValue digits) else .error .hexTooLarge

/-- The double `x` with a `sign`. -/
def signed (sign : NumberSign) (x : Float) : Float := if sign = .minus then -x else x

/-- The double that a number stands for. -/
def toDouble (sign : NumberSign) : NumberLiteral → Except NumberFault Float
  | infinity => if sign = .plus then .error .tooLarge else .ok (signed sign (1.0 / 0.0))
  | nan => if sign = .plus then .error .tooLarge else .ok (0.0 / 0.0)
  | hex digits => if sign = .none then Binary64.ofInt <$> hexWord digits else .error .notNumber
  | decimal digits power _ =>
    let x := Binary64.ofDecimal digits power
    if x.isFinite then .ok (signed sign x) else .error .tooLarge

/-- The word that `literal` with a `sign` stands for: its fraction is dropped, and it is clamped to
the range. -/
def toWord (sign : NumberSign) (literal : NumberLiteral) : Except NumberFault Nat := do
  return (← literal.toDouble sign).toUInt64.toNat

/-- The integer `n` with a `sign`. -/
def signedInteger (sign : NumberSign) (n : Nat) : Int := if sign = .minus then -n else n

/-- What `literal` with a `sign` counts as where no number is wanted. -/
def found (sign : NumberSign) (literal : NumberLiteral) : Except NumberFault Found :=
  match literal with
  | decimal digits _ true =>
    let n := signedInteger sign digits
    if -0x8000000000000000 ≤ n ∧ n < 0x8000000000000000 then .ok (.int n) else .error .notInteger
  | hex digits =>
    if sign = .none then (fun n : Nat => .int n) <$> hexWord digits
    else if digits.any fun c => c == 'e' || c == 'E' then .error .notNumber
    else .error .notInteger
  | other =>
    let isWord := match other with
      | decimal .. => false
      | _ => true
    -- A word with a plus sign is taken for an integer, which it is not.
    if isWord && sign == .plus then .error .notInteger
    else .positional <$> other.toDouble sign

end FirewallProbe.NumberLiteral
