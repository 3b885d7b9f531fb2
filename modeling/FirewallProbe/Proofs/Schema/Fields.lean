import Mathlib.Data.List.Nodup
import FirewallProbe.Proofs.Dict
import FirewallProbe.Proofs.Except
import FirewallProbe.Schema.Decoder

/-!
# Where the fields of a record come from

A record is read entry by entry, each field at most once.  What a record that was read shows of one
of its fields is therefore what the entry with the name of the field says, and without such an
entry it is what the record started with, whatever the other entries are.

## Key results

- `Record.isShownBy_of_optional`: what an optional field of a record is
- `Record.IsShownBy.ofEntries`: a field is read from the entry with its name
- `Record.IsShownBy.ofItems`: or from the item in its place
- `Record.IsShownBy.decoder`: both, for a record that is read from a value
- `Record.IsShownBy.textAt`: the same for a field that holds a text
-/

namespace FirewallProbe

variable {α γ δ : Type}

/-- `Field.set` of an optional field reads the value and then puts it in place. -/
theorem Field.set_optional_eq_ok_iff {β : Type} {name : String} {read : δ → Except Mismatch β}
    {put : β → α → α} {v : δ} {a b : α} :
    (Field.optional name read put).set v a = .ok b ↔ ∃ x, read v = .ok x ∧ put x a = b := by
  simp [Field.optional, Except.bind_eq_ok_iff, pure, Except.pure]

/-- Reading the field leaves a `view` of the record as it is. -/
def Field.Keeps (view : α → γ) (f : Field δ α) : Prop :=
  ∀ v a b, f.set v a = .ok b → view b = view a

@[simp] theorem Field.name_optional {β : Type} (name : String) (read : δ → Except Mismatch β)
    (put : β → α → α) : (Field.optional name read put).name = name := rfl

@[simp] theorem Field.keeps_optional_iff {β : Type} {name : String}
    {read : δ → Except Mismatch β} {put : β → α → α} {view : α → γ} :
    (Field.optional name read put).Keeps view ↔
      ∀ v x, read v = .ok x → ∀ a, view (put x a) = view a := by
  simp only [Keeps, Field.set_optional_eq_ok_iff]
  exact ⟨fun h v x hx a => h v a _ ⟨x, hx, rfl⟩, fun h v a _ ⟨x, hx, hb⟩ => hb ▸ h v x hx a⟩

@[simp] theorem Field.name_mandatory {β : Type} (name : String) (read : δ → Except Mismatch β)
    (put : β → α → α) : (Field.mandatory name read put).name = name := rfl

@[simp] theorem Field.keeps_mandatory_iff {β : Type} {name : String}
    {read : δ → Except Mismatch β} {put : β → α → α} {view : α → γ} :
    (Field.mandatory name read put).Keeps view ↔
      ∀ v x, read v = .ok x → ∀ a, view (put x a) = view a :=
  @Field.keeps_optional_iff α γ δ β name read put view

namespace Record

/-- The names of the fields. -/
def names (r : Record δ α) : List String := r.fields.map (·.name)

/-- `field?` finds a field of the record with the name that is looked for. -/
theorem name_of_field?_eq_some {r : Record δ α} {name : String} {f : Field δ α}
    (h : r.field? name = some f) : f ∈ r.fields ∧ f.name = name :=
  ⟨List.mem_of_find?_eq_some h, by simpa using List.find?_some h⟩

/-- If no two fields have one name, `field?` finds the only one with its name. -/
theorem eq_of_field?_eq_some {r : Record δ α} (hnames : r.names.Nodup) {f g : Field δ α}
    (hf : f ∈ r.fields) (h : r.field? f.name = some g) : f = g :=
  have hg := name_of_field?_eq_some h
  List.inj_on_of_nodup_map hnames hf hg.1 hg.2.symm

/-- `complete` changes nothing in a record. -/
theorem eq_of_complete {r : Record δ α} {seen : List String} {a b : α}
    (h : r.complete seen a = .ok b) : a = b := by
  unfold complete at h
  split at h
  next => cases h
  next => exact Except.ok.inj h

/-- `ofItems false` reads a record from items none of which `readItems` leaves over. -/
theorem ofItems_eq_ok_iff (r : Record δ α) (items : List δ) (a : α) :
    r.ofItems false items = .ok a ↔ r.readItems 0 r.fields items r.blank = .ok ([], a) := by
  rw [ofItems]
  cases r.readItems 0 r.fields items r.blank with
  | error cause => simp [bind, Except.bind]
  | ok result =>
    obtain ⟨rest, b⟩ := result
    cases rest <;> simp [bind, Except.bind]

/-- The `view` of records shows the field `name`: it is the `value` that was read into the field,
and reading another field leaves it as it is. -/
structure IsShownBy (r : Record δ α) (name : String) (value : δ → γ) (view : α → γ) : Prop where
  isField : ∃ f, r.field? name = some f
  own : ∀ f ∈ r.fields, f.name = name → ∀ v a b, f.set v a = .ok b → view b = value v
  other : ∀ f ∈ r.fields, f.name ≠ name → ∀ v a b, f.set v a = .ok b → view b = view a

/-- A `view` shows an optional field if the other fields leave it as it is. -/
theorem isShownBy_of_optional {β : Type} {r : Record δ α} (hnames : r.names.Nodup) {name : String}
    {read : δ → Except Mismatch β} {put : β → α → α}
    (hfield : r.field? name = some (.optional name read put)) {value : δ → γ} {view : α → γ}
    (hown : ∀ v x a, read v = .ok x → view (put x a) = value v)
    (hother : ∀ f ∈ r.fields, f.name ≠ name → f.Keeps view) : r.IsShownBy name value view where
  isField := ⟨_, hfield⟩
  own f hf hname v a b hset := by
    rw [eq_of_field?_eq_some hnames hf (hname ▸ hfield)] at hset
    obtain ⟨x, hx, rfl⟩ := Field.set_optional_eq_ok_iff.1 hset
    exact hown v x a hx
  other := hother

namespace IsShownBy

variable {r : Record δ α} {name : String} {value : δ → γ} {view : α → γ}
  {check : δ → Except Mismatch Unit}

/-- A field that was `seen` does not come again, or `readEntries` would fail. -/
private theorem valueAt?_eq_none_of_seen (h : r.IsShownBy name value view)
    {entries : List (String × δ)} {seen : List String} {a : α} {result : List String × α}
    (hseen : name ∈ seen) (hread : r.readEntries check entries seen a = .ok result) :
    valueAt? name entries = none := by
  induction entries generalizing seen a with
  | nil => rfl
  | cons entry rest ih =>
    obtain ⟨key, v⟩ := entry
    rw [readEntries] at hread
    cases hfield : r.field? key with
    | none =>
      obtain ⟨f, hf⟩ := h.isField
      have hne : key ≠ name := fun heq => by simp [heq, hf] at hfield
      simp only [hfield, Except.bind_eq_ok_iff] at hread
      obtain ⟨_, -, hrest⟩ := hread
      rw [valueAt?, if_neg hne, ih hseen hrest]
    | some g =>
      simp only [hfield] at hread
      split at hread
      -- A key that was seen already is an error.
      next => cases hread
      next hkey =>
        have hne : key ≠ name := fun heq => hkey (heq ▸ hseen)
        obtain ⟨_, -, hrest⟩ := Except.bind_eq_ok_iff.1 hread
        rw [valueAt?, if_neg hne, ih (List.mem_cons_of_mem _ hseen) hrest]

/-- After `readEntries` the `view` is the value of the entry with the name of its field, or what it
was before if there is none.  By induction on the entries. -/
theorem readEntries (h : r.IsShownBy name value view) {entries : List (String × δ)}
    {seen seen' : List String} {a b : α}
    (hread : r.readEntries check entries seen a = .ok (seen', b)) :
    view b = ((valueAt? name entries).map value).getD (view a) := by
  induction entries generalizing seen a with
  | nil => cases hread; rfl
  | cons entry rest ih =>
    obtain ⟨key, v⟩ := entry
    rw [Record.readEntries] at hread
    cases hfield : r.field? key with
    | none =>
      obtain ⟨f, hf⟩ := h.isField
      have hne : key ≠ name := fun heq => by simp [heq, hf] at hfield
      simp only [hfield, Except.bind_eq_ok_iff] at hread
      obtain ⟨_, -, hrest⟩ := hread
      rw [valueAt?, if_neg hne, ih hrest]
    | some g =>
      obtain ⟨hg, hname⟩ := name_of_field?_eq_some hfield
      simp only [hfield] at hread
      split at hread
      next => cases hread
      next =>
        obtain ⟨a', hset, hrest⟩ := Except.bind_eq_ok_iff.1 hread
        by_cases hkey : key = name
        · -- The value of the field is not read over, since the field does not come again.
          rw [ih hrest, h.valueAt?_eq_none_of_seen (hkey ▸ List.mem_cons_self) hrest, valueAt?,
            if_pos hkey, h.own g hg (hname.trans hkey) v a a' hset]
          rfl
        · rw [ih hrest, valueAt?, if_neg hkey,
            h.other g hg (fun heq => hkey (hname.symm.trans heq)) v a a' hset]

/-- `ofEntries` reads a field from the entry with its name. -/
theorem ofEntries (h : r.IsShownBy name value view) {entries : List (String × δ)} {a : α}
    (hread : r.ofEntries entries = .ok a) :
    view a = ((valueAt? name entries).map value).getD (view r.blank) := by
  obtain ⟨⟨seen, b⟩, hentries, hcomplete⟩ := Except.bind_eq_ok_iff.1 hread
  rw [← eq_of_complete hcomplete]
  exact h.readEntries hentries

/-- After `readItems` the `view` is the value of the item in the place of its field, or what it was
before if there are not as many items. -/
theorem readItems (h : r.IsShownBy name value view) {fields : List (Field δ α)}
    (hfields : fields ⊆ r.fields) (hnames : (fields.map (·.name)).Nodup) {count : Nat}
    {items rest : List δ} {a b : α} (hread : r.readItems count fields items a = .ok (rest, b)) :
    view b = ((valueAt? name ((fields.map (·.name)).zip items)).map value).getD (view a) := by
  induction fields generalizing count items a with
  | nil => cases hread; rfl
  | cons f fields ih =>
    obtain ⟨hf, hrest⟩ := List.cons_subset.1 hfields
    obtain ⟨hfresh, hnames⟩ := List.nodup_cons.1 hnames
    cases items with
    | nil =>
      rw [Record.readItems] at hread
      split at hread
      next => cases hread
      next => rw [ih hrest hnames hread, List.zip_nil_right, List.zip_nil_right]
    | cons v items =>
      obtain ⟨a', hset, hitems⟩ := Except.bind_eq_ok_iff.1 hread
      rw [ih hrest hnames hitems, List.map_cons, List.zip_cons_cons, valueAt?]
      by_cases hname : f.name = name
      · -- No field after this one has its name, so its value stays.
        have hnone : valueAt? name ((fields.map (·.name)).zip items) = none := by
          rw [Option.eq_none_iff_forall_ne_some]
          intro w hw
          have hmem := (List.of_mem_zip (mem_of_valueAt?_eq_some hw)).1
          rw [← hname] at hmem
          exact hfresh hmem
        rw [if_pos hname, hnone, h.own f hf hname v a a' hset]
        rfl
      · rw [if_neg hname, h.other f hf hname v a a' hset]

/-- `ofItems` reads a field from the item in its place. -/
theorem ofItems (h : r.IsShownBy name value view) (hnames : r.names.Nodup) {surplus : Bool}
    {items : List δ} {a : α} (hread : r.ofItems surplus items = .ok a) :
    view a = ((valueAt? name (r.names.zip items)).map value).getD (view r.blank) := by
  obtain ⟨⟨rest, b⟩, hitems, hcomplete⟩ := Except.bind_eq_ok_iff.1 hread
  have hab : a = b := by
    dsimp only at hcomplete
    split at hcomplete
    next => exact (Except.ok.inj hcomplete).symm
    next => cases hcomplete
  rw [hab]
  exact h.readItems (List.Subset.refl _) hnames hitems

end IsShownBy

/-- The entries from which a record is read; the items of a list stand for the fields in order. -/
def entriesOf (r : Record Json α) : Json → List (String × Json)
  | .obj members => members
  | .arr items => r.names.zip items
  | _ => []

/-- `Decoder.record` reads a field from the entry with its name, or from the item in its place. -/
theorem IsShownBy.decoder {r : Record Json α} {name : String} {value : Json → γ} {view : α → γ}
    (h : r.IsShownBy name value view) (hnames : r.names.Nodup) {v : Json} {a : α}
    (hread : Decoder.record r v = .ok a) :
    view a = ((valueAt? name (r.entriesOf v)).map value).getD (view r.blank) := by
  cases v with
  | obj members => exact h.ofEntries hread
  | arr items => exact h.ofItems hnames hread
  | _ => cases hread

end Record

/-! ## Texts -/

namespace Json

/-- The text that a value is; empty for any other value. -/
def textOr : Json → String
  | .str s => s
  | _ => ""

/-- The text that a value is, if it is one. -/
def text? : Json → Option String
  | .str s => some s
  | _ => none

/-- The text at a key of an object; empty where there is none. -/
def textAt (key : String) (members : List (String × Json)) : String :=
  ((valueAt? key members).map textOr).getD ""

end Json

/-- A record that starts with an empty text shows the text at the key `name`. -/
theorem Record.IsShownBy.textAt {r : Record Json α} {name : String} {view : α → String}
    (h : r.IsShownBy name Json.textOr view) (hblank : view r.blank = "")
    {members : List (String × Json)} {a : α} (hread : Decoder.record r (.obj members) = .ok a) :
    view a = Json.textAt name members := by
  rw [h.ofEntries hread, hblank, Json.textAt]

/-- `Decoder.text` reads a text as it is. -/
theorem Decoder.textOr_of_text {v : Json} {s : String} (h : Decoder.text v = .ok s) :
    v.textOr = s := by
  cases v <;> cases h
  rfl

/-- A `view` shows an optional text if the other fields leave it as it is. -/
theorem Record.isShownBy_text {r : Record Json α} {name : String} {view : α → String}
    {put : String → α → α} (hnames : r.names.Nodup)
    (hfield : r.field? name = some (.optional name Decoder.text put))
    (hput : ∀ x a, view (put x a) = x) (hother : ∀ f ∈ r.fields, f.name ≠ name → f.Keeps view) :
    r.IsShownBy name Json.textOr view :=
  isShownBy_of_optional hnames hfield
    (fun _ x a hx => (hput x a).trans (Decoder.textOr_of_text hx).symm) hother

/-- `Decoder.nullable` reads null as no text, which `textOr` takes for the empty one. -/
theorem Decoder.textOr_of_nullable {v : Json} {s : Option String}
    (h : Decoder.nullable Decoder.text v = .ok s) : v.textOr = s.getD "" := by
  cases v <;> cases h <;> rfl

/-- `Decoder.nullable` keeps a text as it is, and reads null as no text. -/
theorem Decoder.text?_of_nullable {v : Json} {s : Option String}
    (h : Decoder.nullable Decoder.text v = .ok s) : v.text? = s := by
  cases v <;> cases h <;> rfl

end FirewallProbe
