/-! # JSON5 documents

A document as it is written: numbers keep their notation and texts their escapes, since what a
number or a text stands for depends on the place where it is used. -/

namespace FirewallProbe

/-- The sign in front of a number. -/
inductive NumberSign where
  | none
  | plus
  | minus
  deriving DecidableEq, Repr

/-- A number without its sign.  A decimal is `digits · 10 ^ power`; `integral` says that it has
neither point nor exponent. -/
inductive NumberLiteral where
  | hex (digits : List Char)
  | decimal (digits : Nat) (power : Int) (integral : Bool)
  | infinity
  | nan
  deriving DecidableEq, Repr

/-- One unit of a written text: a character as it is, a backslash with a letter, a code point given
by its number, or a 16-bit unit. -/
inductive TextUnit where
  | literal (c : Char)
  | escape (letter : Char)
  | code (n : Nat)
  | unit (n : Nat)
  deriving DecidableEq, Repr

/-- A document. -/
inductive Json5 where
  | null
  | bool (b : Bool)
  | number (sign : NumberSign) (literal : NumberLiteral)
  | text (units : List TextUnit)
  | list (items : List Json5)
  | object (members : List (List TextUnit × Json5))

instance : Inhabited Json5 := ⟨.null⟩

end FirewallProbe
