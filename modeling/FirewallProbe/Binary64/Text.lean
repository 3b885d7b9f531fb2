import FirewallProbe.Binary64.Shortest

/-! # Decimal text of doubles

Three ways to write a double.  `exactText` writes a whole value with all its digits, `plainText`
the shortest decimal without an exponent, and `styledText` the decimal that its `Style` names, with
a point or, outside a range that the style names too, with an exponent. -/

namespace FirewallProbe.Binary64

/-- The decimal digits of `n`, most significant first. -/
def digitChars (n : Nat) : List Char := Nat.toDigits 10 n

/-- A run of `n` zeros. -/
def zeros (n : Nat) : List Char := List.replicate n '0'

/-- The decimal `d` without an exponent; a whole value has no point. -/
def Decimal.plainChars (d : Decimal) : List Char :=
  let ds := digitChars d.digits
  let places := (-d.power).toNat
  if 0 ≤ d.power then ds ++ zeros d.power.toNat
  else if places < ds.length then
    ds.take (ds.length - places) ++ '.' :: ds.drop (ds.length - places)
  else '0' :: '.' :: zeros (places - ds.length) ++ ds

/-- The decimal `d` with one digit before the point and an exponent; a lone digit has no point, and
an exponent that is not negative has a plus sign if `plus` asks for one. -/
def Decimal.exponentChars (plus : Bool) (d : Decimal) : List Char :=
  let ds := digitChars d.digits
  let power := d.power + (ds.length - 1 : Nat)
  let significand := match ds with
    | [] => []
    | [c] => [c]
    | c :: rest => c :: '.' :: rest
  let sign := if power < 0 then ['-'] else if plus then ['+'] else []
  significand ++ 'e' :: sign ++ digitChars power.natAbs

/-- How doubles are written: which decimal stands for `mantissa · 2 ^ exponent`, and where it has no
exponent, namely with at most `wholeDigits` digits before the point, and with fewer than
`leadingZeros` zeros between the point and the first digit.  `plus` says whether exponents that are
not negative have a plus sign. -/
structure Style where
  decimal : Nat → Int → Decimal
  wholeDigits : Nat
  leadingZeros : Nat
  plus : Bool

/-- The decimal `d` in a `style`; a whole value ends in `.0`. -/
def Decimal.styledChars (style : Style) (d : Decimal) : List Char :=
  -- The place of the point, counted from the first digit.
  let point := (digitChars d.digits).length + d.power
  if 0 ≤ d.power ∧ point ≤ style.wholeDigits then d.plainChars ++ ['.', '0']
  else if d.power < 0 ∧ -(style.leadingZeros : Int) < point ∧ point ≤ style.wholeDigits then
    d.plainChars
  else d.exponentChars style.plus

/-- A minus sign for `negative` values, negative zero included. -/
def signChars (negative : Bool) : List Char := if negative then ['-'] else []

/-- The decimal of the double `x` with a point or an exponent, as `style` has it. -/
def styledText (style : Style) (x : Float) : String :=
  match ofFloat x with
  | .nan => "NaN"
  | .infinite negative => String.ofList (signChars negative ++ ['i', 'n', 'f'])
  | .finite negative 0 _ => String.ofList (signChars negative ++ ['0', '.', '0'])
  | .finite negative mantissa exponent =>
    String.ofList (signChars negative ++ (style.decimal mantissa exponent).styledChars style)

/-- The shortest decimal of `mantissa · 2 ^ exponent`, never with an exponent; ties go up. -/
def plainChars (mantissa : Nat) (exponent : Int) : List Char :=
  if mantissa = 0 then ['0'] else (shortest .up mantissa exponent).plainChars

/-- The shortest decimal of the double `x`, never with an exponent. -/
def plainText (x : Float) : String :=
  match ofFloat x with
  | .nan => "NaN"
  | .infinite negative => String.ofList (signChars negative ++ ['i', 'n', 'f'])
  | .finite negative mantissa exponent =>
    String.ofList (signChars negative ++ plainChars mantissa exponent)

/-- The value `mantissa · 2 ^ exponent` rounded down to a whole number, with all its digits. -/
def wholeChars (mantissa : Nat) (exponent : Int) : List Char :=
  digitChars (wholePart mantissa exponent)

end FirewallProbe.Binary64
