import FirewallProbe.Schema.Mismatch

/-! # Records

A `Record` says how a structure is read from a document: its name, the value before anything is
read, and its fields in order, each with the step that puts its value in place.  A record is read
either from named entries, in the order of the entries, or from a list of items, in the order of
the fields.  Entries whose names are no field are passed over, after a check that depends on the
kind of document. -/

namespace FirewallProbe

/-- One field of a record of type `α` in documents of type `δ`. -/
structure Field (δ α : Type) where
  name : String
  required : Bool
  set : δ → α → Except Mismatch α

/-- The field `name`, read by `read` and put in place by `put`; without it the record keeps its
value. -/
def Field.optional {δ α β : Type} (name : String) (read : δ → Except Mismatch β)
    (put : β → α → α) : Field δ α :=
  ⟨name, false, fun v record => do return put (← read v) record⟩

/-- The field `name`, which must be there. -/
def Field.mandatory {δ α β : Type} (name : String) (read : δ → Except Mismatch β)
    (put : β → α → α) : Field δ α :=
  ⟨name, true, fun v record => do return put (← read v) record⟩

/-- How a structure is read from a document. -/
structure Record (δ α : Type) where
  name : String
  blank : α
  fields : List (Field δ α)

namespace Record

variable {δ α : Type}

/-- The field of `r` that is called `name`. -/
def field? (r : Record δ α) (name : String) : Option (Field δ α) :=
  r.fields.find? fun f => f.name == name

/-- Reads entries in order; gives the names of the fields seen and the record.  The value of an
entry that is no field of `r` is checked by `check`. -/
def readEntries (r : Record δ α) (check : δ → Except Mismatch Unit) :
    List (String × δ) → List String → α → Except Mismatch (List String × α)
  | [], seen, record => .ok (seen, record)
  | (name, v) :: rest, seen, record =>
    match r.field? name with
    | none => do
      check v
      readEntries r check rest seen record
    | some f =>
      if name ∈ seen then .error (.duplicateField name)
      else do readEntries r check rest (name :: seen) (← f.set v record)

/-- The first mandatory field of `r` that is not among `seen`. -/
def firstMissing? (r : Record δ α) (seen : List String) : Option (Field δ α) :=
  r.fields.find? fun f => f.required && !seen.contains f.name

/-- The `record` is complete when every mandatory field of `r` was `seen`. -/
def complete (r : Record δ α) (seen : List String) (record : α) : Except Mismatch α :=
  match r.firstMissing? seen with
  | some f => .error (.missingField f.name)
  | none => .ok record

/-- Reads a record from named `entries`; those that are no field of `r` may hold anything. -/
def ofEntries (r : Record δ α) (entries : List (String × δ)) : Except Mismatch α := do
  let (seen, record) ← r.readEntries (fun _ => .ok ()) entries [] r.blank
  r.complete seen record

/-- Reads items into fields, one after the other; gives the items left over and the record. -/
def readItems (r : Record δ α) :
    Nat → List (Field δ α) → List δ → α → Except Mismatch (List δ × α)
  | _, [], items, record => .ok (items, record)
  | count, f :: fields, [], record =>
    if f.required then .error (.tooFewItems count r.name r.fields.length)
    else readItems r count fields [] record
  | count, f :: fields, v :: items, record => do
    readItems r (count + 1) fields items (← f.set v record)

/-- Reads a record from a list of `items`; items left over are an error unless a `surplus` is
allowed. -/
def ofItems (r : Record δ α) (surplus : Bool) (items : List δ) : Except Mismatch α := do
  let (rest, record) ← r.readItems 0 r.fields items r.blank
  if rest.isEmpty || surplus then .ok record else .error (.tooManyItems items.length)

/-- Entries that are no field may be left out if their value passes the check. -/
theorem readEntries_cons_of_field?_eq_none {r : Record δ α} {check : δ → Except Mismatch Unit}
    {name : String} {v : δ} (h : r.field? name = none) (hv : check v = .ok ())
    (rest : List (String × δ)) (seen : List String) (record : α) :
    r.readEntries check ((name, v) :: rest) seen record =
      r.readEntries check rest seen record := by
  simp [readEntries, h, hv, bind, Except.bind]

end Record
end FirewallProbe
