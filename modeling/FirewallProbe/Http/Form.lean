import FirewallProbe.Text.LossyUtf8

/-! # Form-encoded queries

A query is a list of pairs joined by `&`, with `=` between name and value.  A plus sign stands for a
blank and `%` with two hexadecimal digits for a byte; the bytes are read as UTF-8. -/

namespace FirewallProbe.Form

/-- The value of the hexadecimal digit `b`. -/
def hexValue? (b : UInt8) : Option UInt8 :=
  if 48 ≤ b && b ≤ 57 then some (b - 48)
  else if 97 ≤ b && b ≤ 102 then some (b - 87)
  else if 65 ≤ b && b ≤ 70 then some (b - 55)
  else none

/-- Replaces plus signs and percent escapes; a percent sign that starts no escape stays. -/
def unescape : List UInt8 → List UInt8
  | [] => []
  | 43 :: rest => 32 :: unescape rest
  | 37 :: a :: b :: rest =>
    match hexValue? a, hexValue? b with
    | some a, some b => (16 * a + b) :: unescape rest
    | _, _ => 37 :: unescape (a :: b :: rest)
  | b :: rest => b :: unescape rest

/-- The text that the escaped `bytes` stand for. -/
def decode (bytes : List UInt8) : String := String.ofList (Text.decodeLossy (unescape bytes))

/-- The bytes before the first `separator` and those after it. -/
def splitAt? (separator : UInt8) : List UInt8 → Option (List UInt8 × List UInt8)
  | [] => none
  | b :: rest =>
    if b = separator then some ([], rest)
    else (splitAt? separator rest).map fun (before, after) => (b :: before, after)

/-- The name and the value of a pair; without `=` the value is empty. -/
def pair (bytes : List UInt8) : String × String :=
  match splitAt? 61 bytes with
  | some (name, value) => (decode name, decode value)
  | none => (decode bytes, "")

/-- The pairs of a `query`; empty ones are passed over. -/
def pairs (query : String) : List (String × String) :=
  ((query.toUTF8.toList.splitOn 38).filter (!·.isEmpty)).map pair

end FirewallProbe.Form
