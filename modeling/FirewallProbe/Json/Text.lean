import FirewallProbe.Binary64.Text
import FirewallProbe.Json.Basic

/-! # Compact JSON text

`Json.compact` writes a value without blanks.  A double always has a point or an exponent, so that
it reads back as a double. -/

namespace FirewallProbe.Json

/-- Doubles are written as the shortest decimal, a tie as the even one; positionally with up to 16
digits before the point and up to four zeros after it, else with an exponent that has a sign. -/
def floatStyle : Binary64.Style where
  decimal := Binary64.shortest .even
  wholeDigits := 16
  leadingZeros := 5
  plus := true

/-- The double `x` in JSON; those that JSON cannot write become `null`. -/
def floatText (x : Float) : String :=
  if x.isFinite then Binary64.styledText floatStyle x else "null"

/-- The lower-case hexadecimal digit of `n`. -/
def hexChar (n : Nat) : Char := Nat.digitChar n

/-- The character `c` inside a JSON string. -/
def escapeChar (c : Char) : List Char :=
  if c = '"' then ['\\', '"']
  else if c = '\\' then ['\\', '\\']
  else if c = '\n' then ['\\', 'n']
  else if c = '\r' then ['\\', 'r']
  else if c = '\t' then ['\\', 't']
  else if c.toNat = 8 then ['\\', 'b']
  else if c.toNat = 12 then ['\\', 'f']
  else if c.toNat < 32 then ['\\', 'u', '0', '0', hexChar (c.toNat / 16), hexChar (c.toNat % 16)]
  else [c]

/-- The text `s` between quotes. -/
def quoted (s : String) : String :=
  String.ofList ('"' :: s.toList.flatMap escapeChar ++ ['"'])

mutual

/-- The text of a value, without blanks. -/
def compact : Json → String
  | .null => "null"
  | .bool b => if b then "true" else "false"
  | .int n => toString n
  | .float x => floatText x
  | .str s => quoted s
  | .arr items => "[" ++ String.intercalate "," (compactItems items) ++ "]"
  | .obj members => "\x7b" ++ String.intercalate "," (compactMembers members) ++ "\x7d"

/-- The texts of a list of values. -/
def compactItems : List Json → List String
  | [] => []
  | v :: rest => v.compact :: compactItems rest

/-- The texts of an object's members. -/
def compactMembers : List (String × Json) → List String
  | [] => []
  | (k, v) :: rest => (quoted k ++ ":" ++ v.compact) :: compactMembers rest

end

end FirewallProbe.Json
