import FirewallProbe.Measurement
import FirewallProbe.Proofs.Exposition.States
import FirewallProbe.Proofs.Schema.Fields
import FirewallProbe.Proofs.TextOrder

/-!
# What a value holds for the fields of a record

A record that was read is told by the value from which it was read: a number, a list or a dictionary
by what stands at the key of its field.  Numbers that are reported as they are, or in another unit,
are therefore samples that can be read off the value.

## Key results

- `Record.isShownBy_text` / `isShownBy_number` / `isShownBy_read`: what the field of a record is
- `Record.IsShownBy.numberAt` / `listAt` / `dictAt`: what stands at the key of a field
- `Family.filter_labelledStates` / `StateFamily.IsSound.samplePerState_eq_labelledStates`: the
  samples of a state
- `ReportedNumber.AreShownBy.samples_eq`: the samples of the numbers of a record
- `Dict.pairwise_bytesOf_keys`: the keys of a dictionary in the order of their bytes
-/

namespace FirewallProbe

/-! ## What stands at a key -/

namespace Json

/-- The number that a value is; zero for any other value. -/
def numberOr : Json → Float
  | .int n => Binary64.ofInt n
  | .float x => x
  | _ => 0.0

/-- The number at a key of an object; zero where there is none. -/
def numberAt (key : String) (members : List (String × Json)) : Float :=
  ((valueAt? key members).map numberOr).getD 0.0

/-- The natural number that a value is; zero for any other value. -/
def natOr : Json → Nat
  | .int n => n.toNat
  | _ => 0

/-- The natural number at a key of an object; zero where there is none. -/
def natAt (key : String) (members : List (String × Json)) : Nat :=
  ((valueAt? key members).map natOr).getD 0

/-- The items of a list; none of any other value. -/
def items : Json → List Json
  | .arr items => items
  | _ => []

/-- The items of the list at a key of an object. -/
def itemsAt (key : String) (members : List (String × Json)) : List Json :=
  ((valueAt? key members).map items).getD []

/-- The members of an object by their keys, of several with one key the last; none of any other
value. -/
def members : Json → Dict Json
  | .obj members => Dict.ofList members
  | _ => Dict.empty

/-- The members of the object at a key of an object. -/
def membersAt (key : String) (entries : List (String × Json)) : Dict Json :=
  ((valueAt? key entries).map members).getD Dict.empty

end Json

variable {α β : Type}

/-- Members that are related by `R` give the same blocks, if `f` and `g` do. -/
theorem flatMap_eq_of_forall₂ {α : Type u} {β : Type v} {γ : Type w} {R : α → β → Prop}
    {as : List α} {bs : List β} (h : List.Forall₂ R as bs) {f : α → List γ} {g : β → List γ}
    (hfg : ∀ a b, R a b → f a = g b) : as.flatMap f = bs.flatMap g := by
  induction h with
  | nil => rfl
  | cons hab _ ih => rw [List.flatMap_cons, List.flatMap_cons, hfg _ _ hab, ih]

/-! ## Decoders -/

/-- `Decoder.double` reads a number as it is. -/
theorem Decoder.numberOr_of_double {v : Json} {x : Float} (h : Decoder.double v = .ok x) :
    v.numberOr = x := by
  cases v <;> cases h <;> rfl

/-- `Decoder.word64` reads a natural number as it is. -/
theorem Decoder.natOr_of_word64 {v : Json} {n : Nat} (h : Decoder.word64 v = .ok n) :
    v.natOr = n := by
  cases v with
  | int m =>
    rw [Decoder.word64] at h
    split at h
    next => exact Except.ok.inj h
    next => cases h
  | _ => cases h

/-- `Decoder.list` reads the `items` one by one. -/
theorem Decoder.forall₂_of_list {d : Decoder α} {v : Json} {xs : List α}
    (h : Decoder.list d v = .ok xs) : List.Forall₂ (fun w x => d w = .ok x) v.items xs := by
  cases v with
  | arr items => exact Except.mapM_eq_ok_iff.1 h
  | _ => cases h

/-- `Decoder.dict` reads the `members` one by one. -/
theorem Decoder.rel_of_dict {d : Decoder α} {v : Json} {read : Dict α}
    (h : Decoder.dict d v = .ok read) : Dict.Rel (fun w x => d w = .ok x) v.members read := by
  cases v with
  | obj members =>
    obtain ⟨entries, hentries, heq⟩ := Except.bind_eq_ok_iff.1 h
    obtain rfl := Except.ok.inj heq
    refine Dict.rel_ofList ((Except.mapM_eq_ok_iff.1 hentries).imp fun m e hme => ?_)
    obtain ⟨x, hx, hpair⟩ := Except.bind_eq_ok_iff.1 hme
    obtain rfl := Except.ok.inj hpair
    exact ⟨rfl, hx⟩
  | _ => cases h

/-! ## Fields -/

namespace Record

section

variable {r : Record Json α} {name : String}

/-- A `view` shows an optional number if the other fields leave it as it is. -/
theorem isShownBy_number {view : α → Float} {put : Float → α → α} (hnames : r.names.Nodup)
    (hfield : r.field? name = some (.optional name Decoder.double put))
    (hput : ∀ x a, view (put x a) = x) (hother : ∀ f ∈ r.fields, f.name ≠ name → f.Keeps view) :
    r.IsShownBy name Json.numberOr view :=
  isShownBy_of_optional hnames hfield
    (fun _ x a hx => (hput x a).trans (Decoder.numberOr_of_double hx).symm) hother

/-- A `view` shows an optional natural number if the other fields leave it as it is. -/
theorem isShownBy_word64 {view : α → Nat} {put : Nat → α → α} (hnames : r.names.Nodup)
    (hfield : r.field? name = some (.optional name Decoder.word64 put))
    (hput : ∀ n a, view (put n a) = n) (hother : ∀ f ∈ r.fields, f.name ≠ name → f.Keeps view) :
    r.IsShownBy name Json.natOr view :=
  isShownBy_of_optional hnames hfield
    (fun _ n a hn => (hput n a).trans (Decoder.natOr_of_word64 hn).symm) hother

/-- A `view` shows what `read` makes of an optional field if the other fields leave it as it is. -/
theorem isShownBy_read {read : Decoder β} {view : α → β} {put : β → α → α}
    (hnames : r.names.Nodup) (hfield : r.field? name = some (.optional name read put))
    (hput : ∀ x a, view (put x a) = x)
    (hother : ∀ f ∈ r.fields, f.name ≠ name → f.Keeps view) :
    r.IsShownBy name read fun a => .ok (view a) :=
  isShownBy_of_optional hnames hfield (fun v x a hx => by rw [hput, hx])
    fun f hf hname v a b hset => congrArg Except.ok (hother f hf hname v a b hset)

end

namespace IsShownBy

variable {r : Record Json α} {name : String} {v : Json} {a : α}

/-- A record that starts with an empty text shows the text at the key `name`. -/
theorem textOf {view : α → String} (h : r.IsShownBy name Json.textOr view)
    (hnames : r.names.Nodup) (hblank : view r.blank = "") (hread : Decoder.record r v = .ok a) :
    view a = Json.textAt name (r.entriesOf v) := by
  rw [h.decoder hnames hread, hblank, Json.textAt]

/-- A record that starts with zero shows the number at the key `name`. -/
theorem numberAt {view : α → Float} (h : r.IsShownBy name Json.numberOr view)
    (hnames : r.names.Nodup) (hblank : view r.blank = 0.0) (hread : Decoder.record r v = .ok a) :
    view a = Json.numberAt name (r.entriesOf v) := by
  rw [h.decoder hnames hread, hblank, Json.numberAt]

/-- A record that starts with zero shows the natural number at the key `name`. -/
theorem natAt {view : α → Nat} (h : r.IsShownBy name Json.natOr view)
    (hnames : r.names.Nodup) (hblank : view r.blank = 0) (hread : Decoder.record r v = .ok a) :
    view a = Json.natAt name (r.entriesOf v) := by
  rw [h.decoder hnames hread, hblank, Json.natAt]

/-- A field that was read holds what `d` reads of the value at its key, or what the record starts
with. -/
theorem cases_valueAt? {d : Decoder β} {field : α → β}
    (h : r.IsShownBy name d fun a => .ok (field a)) (hnames : r.names.Nodup)
    (hread : Decoder.record r v = .ok a) :
    (∃ w, valueAt? name (r.entriesOf v) = some w ∧ d w = .ok (field a)) ∨
      valueAt? name (r.entriesOf v) = none ∧ field a = field r.blank := by
  have hfield := h.decoder hnames hread
  cases hvalue : valueAt? name (r.entriesOf v) with
  | some w =>
    rw [hvalue] at hfield
    exact .inl ⟨w, rfl, hfield.symm⟩
  | none =>
    rw [hvalue] at hfield
    exact .inr ⟨rfl, Except.ok.inj hfield⟩

/-- A field that holds a list was read from the items at the key `name`. -/
theorem listAt {d : Decoder β} {field : α → List β}
    (h : r.IsShownBy name (Decoder.list d) fun a => .ok (field a)) (hnames : r.names.Nodup)
    (hblank : field r.blank = []) (hread : Decoder.record r v = .ok a) :
    List.Forall₂ (fun w x => d w = .ok x) (Json.itemsAt name (r.entriesOf v)) (field a) := by
  rcases h.cases_valueAt? hnames hread with ⟨w, hvalue, hw⟩ | ⟨hvalue, heq⟩
  · rw [Json.itemsAt, hvalue]
    exact Decoder.forall₂_of_list hw
  · rw [Json.itemsAt, hvalue, heq, hblank]
    exact .nil

/-- A field that holds a dictionary was read from the members at the key `name`. -/
theorem dictAt {d : Decoder β} {field : α → Dict β}
    (h : r.IsShownBy name (Decoder.dict d) fun a => .ok (field a)) (hnames : r.names.Nodup)
    (hblank : field r.blank = Dict.empty) (hread : Decoder.record r v = .ok a) :
    Dict.Rel (fun w x => d w = .ok x) (Json.membersAt name (r.entriesOf v)) (field a) := by
  rcases h.cases_valueAt? hnames hread with ⟨w, hvalue, hw⟩ | ⟨hvalue, heq⟩
  · rw [Json.membersAt, hvalue]
    exact Decoder.rel_of_dict hw
  · rw [Json.membersAt, hvalue, heq, hblank]
    exact Dict.rel_empty

end IsShownBy
end Record

/-! ## Numbers that are reported -/

/-- A sample of a family with its labels written out. -/
def Family.labelled (f : Family) (value : Float) (labels : List (String × String)) : Sample where
  name := f.name
  help := f.help
  kind := f.kind
  value := value
  labels := labels

/-- One sample for each state, at one for the state that holds, with the labels written out. -/
def Family.labelledStates (f : Family) (labels : List (String × String)) (states : List String)
    (current : String) : List Sample :=
  states.map fun state =>
    f.labelled (if state = current then 1.0 else 0.0) (labels ++ [("state", state)])

/-- `labelledStates` has one sample at one, which is that of `current`. -/
theorem Family.filter_labelledStates (f : Family) (labels : List (String × String))
    {states : List String} (hnodup : states.Nodup) {current : String} (h : current ∈ states) :
    (f.labelledStates labels states current).filter (fun x => x.value = 1.0) =
      [f.labelled 1.0 (labels ++ [("state", current)])] := by
  have hone : ∀ state, ((if state = current then 1.0 else 0.0 : Float) = 1.0) ↔
      state = current := by
    intro state
    split <;> simp [*, zero_ne_one_float]
  have hstates : states.filter (fun state => state = current) = [current] := by
    rw [List.filter_eq, List.count_eq_one_of_mem hnodup h]
    rfl
  rw [labelledStates, List.filter_map]
  simp only [Function.comp_def, labelled, hone, hstates, List.map_cons, List.map_nil, if_true]

/-- `samplePerState` is at one for the `effectiveState`, with the labels written out. -/
theorem StateFamily.IsSound.samplePerState_eq_labelledStates {f : StateFamily} (h : f.IsSound)
    {values : List String} (hvalues : values.length + 1 = f.family.labels.length)
    (status : String) :
    f.family.samplePerState values status f.known =
      f.family.labelledStates (f.keys.zip values) f.states (effectiveState status f.known) := by
  rw [h.samplePerState_eq hvalues, Family.labelledStates]
  refine List.map_congr_left fun state _ => ?_
  simp [Family.labelled, indicator, stateLabel]

/-- A number of a record that is reported: the key of its field, the field, the conversion of its
unit and the family of its samples. -/
structure ReportedNumber (α : Type) where
  key : String
  field : α → Float
  convert : Float → Float
  family : Family

namespace ReportedNumber

/-- The measurement that reports a number. -/
def measurement (n : ReportedNumber α) : Measurement α := n.family.of fun a => n.convert (n.field a)

/-- The samples of numbers, read off the entries of a value. -/
def samples (table : List (ReportedNumber α)) (labels : List (String × String))
    (entries : List (String × Json)) : List Sample :=
  table.map fun n => n.family.labelled (n.convert (Json.numberAt n.key entries)) labels

/-- A record shows the numbers of a table, all of which it starts with at zero, and their families
have the same labels. -/
structure AreShownBy (table : List (ReportedNumber α)) (r : Record Json α)
    (labelNames : List String) : Prop where
  names : r.names.Nodup
  shown : ∀ n ∈ table, r.IsShownBy n.key Json.numberOr n.field
  blank : ∀ n ∈ table, n.field r.blank = 0.0
  labels : ∀ n ∈ table, n.family.labels = labelNames

/-- `Measurement.samples` of a record are those that its value tells. -/
theorem AreShownBy.samples_eq {table : List (ReportedNumber α)} {r : Record Json α}
    {labelNames : List String} (h : AreShownBy table r labelNames) {v : Json} {a : α}
    (hread : Decoder.record r v = .ok a) (values : List String) :
    Measurement.samples (table.map measurement) values a =
      samples table (labelNames.zip values) (r.entriesOf v) := by
  -- No number is missing, so there is a sample for each entry of the table.
  have hall : Measurement.samples (table.map measurement) values a =
      table.map fun n => n.family.sample (n.convert (n.field a)) values := by
    rw [Measurement.samples, List.filterMap_map]
    exact congrFun List.filterMap_eq_map table
  rw [hall, samples]
  refine List.map_congr_left fun n hn => ?_
  rw [(h.shown n hn).numberAt h.names (h.blank n hn) hread, Family.sample, h.labels n hn]
  rfl

end ReportedNumber

/-! ## Keys -/

/-- `Dict.entries` is in the order of the bytes of the keys. -/
theorem Dict.pairwise_bytesOf_keys (d : Dict α) :
    (d.entries.map (·.1)).Pairwise fun a b => Text.bytesOf a < Text.bytesOf b :=
  List.pairwise_map.2 (d.sorted.imp Text.bytesOf_lt_iff.2)

end FirewallProbe
