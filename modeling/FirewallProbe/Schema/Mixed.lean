import FirewallProbe.Schema.Decoder

/-! # Objects that mix fixed fields with dynamic entries

Some objects hold a few known fields next to entries whose names vary and whose values all have one
shape.  `MixedRecord.decode` moves the known fields into one record and reads every other entry, in
key order, with one decoder.  `MixedRecord.decoder` is the same as a decoder, for use inside other
shapes. -/

namespace FirewallProbe

/-- An object split into its fixed part and its dynamic entries. -/
structure MixedRecord (α β : Type) where
  fixed : α
  dynamic : Dict β

instance {α β : Type} [Inhabited α] : Inhabited (MixedRecord α β) := ⟨⟨default, Dict.empty⟩⟩

/-- Why the members of an object cannot be split. -/
inductive PartFault where
  | fixedField (cause : Mismatch)
  | dynamicEntry (key : String) (cause : Mismatch)

/-- Why a value cannot be split. -/
inductive SplitError where
  | notAnObject (typeName : String)
  | part (fault : PartFault)

/-- The wording of a fault in a part. -/
def PartFault.message : PartFault → String
  | .fixedField cause => s!"fixed fields: {cause.message}"
  | .dynamicEntry key cause => s!"dynamic entry '{key}': {cause.message}"

/-- The wording of a split error. -/
def SplitError.message : SplitError → String
  | .notAnObject typeName => s!"expected a JSON object, found {typeName}"
  | .part fault => fault.message

/-- A fault in a part as the reason why a surrounding document does not fit. -/
def PartFault.mismatch : PartFault → Mismatch
  | .fixedField cause => .fixedFields cause
  | .dynamicEntry key cause => .dynamicEntry key cause

namespace MixedRecord

variable {α β : Type}

/-- The `members` whose name is among `names`. -/
def fixedMembers (names : List String) (members : List (String × Json)) : List (String × Json) :=
  members.filter fun m => names.contains m.1

/-- The `members` whose name is not among `names`. -/
def dynamicMembers (names : List String) (members : List (String × Json)) :
    List (String × Json) :=
  members.filter fun m => !names.contains m.1

/-- Reads every member with the decoder `entry`, up to the first that does not fit. -/
def decodeEntries (entry : Decoder β) :
    List (String × Json) → Except PartFault (List (String × β))
  | [] => .ok []
  | (key, v) :: rest =>
    match entry v with
    | .error cause => .error (.dynamicEntry key cause)
    | .ok b => do return (key, b) :: (← decodeEntries entry rest)

/-- Splits the `members` of an object: those called as one of `names` are read together by `fixed`,
each other one by `entry`. -/
def split (names : List String) (fixed : Decoder α) (entry : Decoder β)
    (members : List (String × Json)) : Except PartFault (MixedRecord α β) :=
  match fixed (.obj (fixedMembers names members)) with
  | .error cause => .error (.fixedField cause)
  | .ok a => do
    let entries ← decodeEntries entry (dynamicMembers names members)
    return ⟨a, Dict.ofList entries⟩

/-- Splits the object `v`; anything else is no object. -/
def decode (names : List String) (fixed : Decoder α) (entry : Decoder β) (v : Json) :
    Except SplitError (MixedRecord α β) :=
  match v with
  | .obj members => (split names fixed entry members).mapError .part
  | v => .error (.notAnObject v.typeName)

/-- Splits an object as part of a larger document, with the faults of `split` as mismatches. -/
def decoder (names : List String) (fixed : Decoder α) (entry : Decoder β) :
    Decoder (MixedRecord α β) := fun v => do
  let members ← Decoder.object v
  (split names fixed entry members).mapError PartFault.mismatch

end MixedRecord
end FirewallProbe
