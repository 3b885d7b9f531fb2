import FirewallProbe.Json5.Number
import FirewallProbe.Json5.Text
import FirewallProbe.Schema.Record
import FirewallProbe.Dict

/-! # Decoding JSON5 documents

The decoders of the shapes that a configuration has.  A text is decoded where it is used, also as
the name of a member.  A member of a record that is no field is looked through by `check` when its
turn comes: its numbers, texts and names must stand for something, whatever that is.  What comes
after the last field in a list, or after the first member where one is asked for, is never looked
at. -/

namespace FirewallProbe.Json5

/-- Reads a document. -/
abbrev Decoder (α : Type) := Json5 → Except Mismatch α

/-- The text that the written `units` stand for. -/
def decodeText (units : List TextUnit) : Except Mismatch String :=
  match TextUnit.decode units with
  | .ok cs => .ok (String.ofList cs)
  | .error fault => .error (.surrogate fault)

/-- What stands at a place of a document. -/
def found : Json5 → Except Mismatch Found
  | .null => .ok .unit
  | .bool b => .ok (.bool b)
  | .number sign literal => (literal.found sign).mapError .number
  | .text units => Found.text <$> decodeText units
  | .list _ => .ok .sequence
  | .object _ => .ok .map

/-- The error of the value `v` where `wanted` should stand, or the fault of a number or text `v`
that stands for nothing. -/
def wrongType {α : Type} (v : Json5) (wanted : Wanted) : Except Mismatch α := do
  .error (.wrongType (← v.found) wanted)

mutual

/-- Checks that all numbers, texts and names of a value stand for something. -/
def check : Json5 → Except Mismatch Unit
  | .list items => checkItems items
  | .object members => checkMembers members
  | v => discard v.found

/-- Checks items in order. -/
def checkItems : List Json5 → Except Mismatch Unit
  | [] => .ok ()
  | v :: rest => do
    check v
    checkItems rest

/-- Checks members in order, each name before its value. -/
def checkMembers : List (List TextUnit × Json5) → Except Mismatch Unit
  | [] => .ok ()
  | (key, v) :: rest => do
    let _ ← decodeText key
    check v
    checkMembers rest

end

namespace Decoder

/-- A natural number of at most 64 bits, from any number. -/
def word : Decoder Nat
  | .number sign literal => (literal.toWord sign).mapError .number
  | _ => .error (.number .notNumber)

/-- A truth value. -/
def bool : Decoder Bool
  | .bool b => .ok b
  | v => v.wrongType .bool

/-- A text. -/
def text : Decoder String
  | .text units => decodeText units
  | v => v.wrongType .text

/-- A list whose items are all read by `d`. -/
def list {α : Type} (d : Decoder α) : Decoder (List α)
  | .list items => items.mapM d
  | v => v.wrongType .sequence

/-- A dictionary whose values are all read by `d`. -/
def dict {α : Type} (d : Decoder α) : Decoder (Dict α)
  | .object members => do
    let entries ← members.mapM fun (key, v) => do return (← decodeText key, ← d v)
    return Dict.ofList entries
  | v => v.wrongType .map

/-- The members before the first whose name is no text, and what is wrong with that name. -/
def namedMembers : List (List TextUnit × Json5) → List (String × Json5) × Option Mismatch
  | [] => ([], none)
  | (key, v) :: rest =>
    match decodeText key with
    | .error fault => ([], some fault)
    | .ok name =>
      let (others, fault) := namedMembers rest
      ((name, v) :: others, fault)

/-- The record `r`, from an object or from the list of its fields' values; further items of the list
are passed over. -/
def record {α : Type} (r : Record Json5 α) : Decoder α
  | .object members => do
    -- A fault in an earlier member comes before a fault in a later name.
    let (named, fault) := namedMembers members
    let (seen, value) ← r.readEntries check named [] r.blank
    match fault with
    | some fault => .error fault
    | none => r.complete seen value
  | .list items => r.ofItems true items
  | v => v.wrongType (.record r.name)

/-- One of the names `known`: a text, or an object whose first member has that name. -/
def variant (known : List String) : Decoder String
  | .text units => decodeText units >>= choose
  | .object ((key, _) :: _) => decodeText key >>= choose
  | .object [] => .error .emptyVariant
  | _ => .error .noVariant
where
  /-- A name that must be known. -/
  choose (name : String) : Except Mismatch String :=
    if name ∈ known then .ok name else .error (.unknownVariant name known)

end Decoder
end FirewallProbe.Json5
