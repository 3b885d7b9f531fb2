import FirewallProbe.Binary64.Reading
import FirewallProbe.Schema.Record

/-! # Decoding JSON values

A `Decoder α` turns a JSON value into an `α` or says why it does not fit.  Here are the decoders of
the basic shapes, and those of lists, dictionaries and records built from them. -/

namespace FirewallProbe

/-- Reads a JSON value. -/
abbrev Decoder (α : Type) := Json → Except Mismatch α

/-- What `v` is, for the wording of a mismatch. -/
def Json.found : Json → Found
  | .null => .null
  | .bool b => .bool b
  | .int n => .int n
  | .float x => .float x
  | .str s => .text s
  | .arr _ => .sequence
  | .obj _ => .map

namespace Decoder

/-- Any value, as it is. -/
def any : Decoder Json := fun v => .ok v

/-- A number; an integer becomes the nearest double. -/
def double : Decoder Float
  | .int n => .ok (Binary64.ofInt n)
  | .float x => .ok x
  | v => .error (.wrongType v.found .double)

/-- A natural number of at most 64 bits. -/
def word64 : Decoder Nat
  | .int n =>
    if 0 ≤ n ∧ n < 0x10000000000000000 then .ok n.toNat else .error (.outOfRange n .word64)
  | v => .error (.wrongType v.found .word64)

/-- A natural number of at most 32 bits. -/
def word32 : Decoder Nat
  | .int n => if 0 ≤ n ∧ n < 0x100000000 then .ok n.toNat else .error (.outOfRange n .word32)
  | v => .error (.wrongType v.found .word32)

/-- A truth value. -/
def bool : Decoder Bool
  | .bool b => .ok b
  | v => .error (.wrongType v.found .bool)

/-- A text. -/
def text : Decoder String
  | .str s => .ok s
  | v => .error (.wrongType v.found .text)

/-- A value that `d` reads, or null. -/
def nullable {α : Type} (d : Decoder α) : Decoder (Option α)
  | .null => .ok none
  | v => do return some (← d v)

/-- A list whose items are all read by `d`, up to the first that does not fit. -/
def list {α : Type} (d : Decoder α) : Decoder (List α)
  | .arr items => items.mapM d
  | v => .error (.wrongType v.found .sequence)

/-- A dictionary whose values are all read by `d`. -/
def dict {α : Type} (d : Decoder α) : Decoder (Dict α)
  | .obj members => do
    let entries ← members.mapM fun (key, v) => do return (key, ← d v)
    return Dict.ofList entries
  | v => .error (.wrongType v.found .map)

/-- An object. -/
def object : Decoder (List (String × Json))
  | .obj members => .ok members
  | v => .error (.wrongType v.found .map)

/-- The record `r`, from an object or from the list of its fields' values. -/
def record {α : Type} (r : Record Json α) : Decoder α
  | .obj members => r.ofEntries members
  | .arr items => r.ofItems false items
  | v => .error (.wrongType v.found (.record r.name))

end Decoder
end FirewallProbe
