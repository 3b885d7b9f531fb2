import FirewallProbe.Text.Unprintable

/-! # Quoted text for messages

A text between double quotes, on one line and without characters that cannot be seen: quotes and
backslashes take a backslash, the usual controls their letter, and everything unprintable its code
point in hexadecimal digits. -/

namespace FirewallProbe.Text

/-- The code point `n` as `\\u` and hexadecimal digits between braces. -/
def codePointEscape (n : Nat) : List Char :=
  ['\\', 'u', '\x7b'] ++ Nat.toDigits 16 n ++ ['\x7d']

/-- The character `c` of a quoted text. -/
def quotedChar (c : Char) : List Char :=
  if c = '"' then ['\\', '"']
  else if c = '\\' then ['\\', '\\']
  else if c = '\n' then ['\\', 'n']
  else if c = '\r' then ['\\', 'r']
  else if c = '\t' then ['\\', 't']
  else if c.toNat = 0 then ['\\', '0']
  else if c.toNat < 32 || (127 ≤ c.toNat && isUnprintable c) then codePointEscape c.toNat
  else [c]

/-- The text `s` between quotes. -/
def quote (s : String) : String := String.ofList ('"' :: s.toList.flatMap quotedChar ++ ['"'])

end FirewallProbe.Text
