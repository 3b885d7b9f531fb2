import FirewallProbe.Dict
import FirewallProbe.Journal

/-! # Joining record sets

An index looks records up by a key; of several records with one key the last is kept and a
diagnostic event is noted for each one replaced.  `correlate` pairs every primary record with the
secondary record of its key, if there is one. -/

namespace FirewallProbe

/-- The label of the implicit catch-all record, which has the number 0. -/
def implicitDeny : String := "Implicit Deny"

/-- The label of a record without counterpart. -/
def unknownLabel : String := "<UNKNOWN>"

/-- Records by their key. -/
abbrev CorrelationIndex (α : Type u) := Dict α

/-- The event noted when a record takes the place of an earlier one with its key. -/
def duplicateKeyEvent (key : String) : Event :=
  ⟨.debug, "Duplicate correlation key, keeping the last record", [("key", key)]⟩

namespace CorrelationIndex

/-- Adds a `record` under `key`; where one was there already, it is replaced and the event
`duplicateKeyEvent` noted. -/
def add {α : Type u} (index : CorrelationIndex α) (key : String) (record : α) :
    Logged (CorrelationIndex α) :=
  ⟨index.insert key record,
    if (index.find? key).isSome then [duplicateKeyEvent key] else []⟩

/-- Adds records one after the other, each under the key that `keyOf` gives it. -/
def addAll {α : Type u} (keyOf : α → String) (index : CorrelationIndex α) :
    List α → Logged (CorrelationIndex α)
  | [] => ⟨index, []⟩
  | record :: rest =>
    let first := index.add (keyOf record) record
    let all := addAll keyOf first.value rest
    ⟨all.value, first.events ++ all.events⟩

/-- The index of `records` by `keyOf`. -/
def build {α : Type u} (keyOf : α → String) (records : List α) : Logged (CorrelationIndex α) :=
  addAll keyOf Dict.empty records

end CorrelationIndex

/-- Pairs each of the `records` with the indexed record of its key, if there is one. -/
def correlate {α β : Type u} (records : List α) (index : CorrelationIndex β) (keyOf : α → String) :
    List (α × Option β) :=
  records.map fun record => (record, index.find? (keyOf record))

/-- The label of a correlated record: number 0 is the implicit record whatever was `found`. -/
def correlationLabel (number : Nat) (found : Option String) : String :=
  if number = 0 then implicitDeny else found.getD unknownLabel

end FirewallProbe
