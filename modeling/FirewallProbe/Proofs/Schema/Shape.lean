import FirewallProbe.Envelope
import FirewallProbe.Proofs.Schema.Fields
import FirewallProbe.Proofs.Schema.Refinement

/-!
# Which values a record can be read from

`Decoder.record` says what a value is read as, and fails with the first thing that does not fit.
Here is the condition under which it does not fail, in terms of the value alone: `FieldShape` says
what the value of one field may be and whether the field must be there, and `Json.HasFields` what
that makes of an object or a list.  `Field.Fits` connects a field to its shape.

## Key results

- `Record.exists_readEntries_iff`: when `Record.readEntries` does not fail, and what it has seen
- `Record.exists_ofEntries_iff` / `exists_ofItems_iff`: when entries or items are a record
- `Record.exists_decoder_iff`: the same for `Decoder.record`
- `Envelope.exists_decoder_iff`: when a value is an envelope
-/

namespace FirewallProbe

variable {α β δ : Type}

/-- What documents have at a field: its name, whether it must be there and which values it may
have. -/
structure FieldShape (δ : Type) where
  name : String
  required : Bool
  accepts : δ → Prop

/-- The entries of a document are those of a record: no field comes twice, every field that comes
has a value it may have, and the required ones come.  Entries of other names may hold anything. -/
structure FieldShape.Admits (shapes : List (FieldShape δ)) (entries : List (String × δ)) :
    Prop where
  once : ((entries.map (·.1)).filter fun key => key ∈ shapes.map (·.name)).Nodup
  accepted : ∀ entry ∈ entries, ∀ shape ∈ shapes, shape.name = entry.1 → shape.accepts entry.2
  present : ∀ shape ∈ shapes, shape.required = true → shape.name ∈ entries.map (·.1)

/-- The items of a document are those of a record, in the order of the shapes: none is left over,
each has a value it may have, and those that are missing are not required. -/
structure FieldShape.AdmitsItems (shapes : List (FieldShape δ)) (items : List δ) : Prop where
  length : items.length ≤ shapes.length
  accepted : ∀ pair ∈ shapes.zip items, pair.1.accepts pair.2
  missing : ∀ shape ∈ shapes.drop items.length, shape.required = false

/-- A value that has fields of some shapes, as the members of an object or the items of a list. -/
def Json.HasFields (shapes : List (FieldShape Json)) : Json → Prop
  | .obj members => FieldShape.Admits shapes members
  | .arr items => FieldShape.AdmitsItems shapes items
  | _ => False

/-- `Field.set` succeeds on the values that the shape accepts, whatever was read before. -/
structure Field.Fits (f : Field δ α) (shape : FieldShape δ) : Prop where
  name : f.name = shape.name
  required : f.required = shape.required
  set : ∀ v a, (∃ b, f.set v a = .ok b) ↔ shape.accepts v

/-- An optional field fits the values that `read` reads. -/
theorem Field.fits_optional {name : String} {read : δ → Except Mismatch β} {put : β → α → α}
    {accepts : δ → Prop} (h : ∀ v, (∃ x, read v = .ok x) ↔ accepts v) :
    (Field.optional name read put).Fits ⟨name, false, accepts⟩ where
  name := rfl
  required := rfl
  set v a := by simp [Field.set_optional_eq_ok_iff, ← h]

/-- A mandatory field fits the values that `read` reads, and is required. -/
theorem Field.fits_mandatory {name : String} {read : δ → Except Mismatch β} {put : β → α → α}
    {accepts : δ → Prop} (h : ∀ v, (∃ x, read v = .ok x) ↔ accepts v) :
    (Field.mandatory name read put).Fits ⟨name, true, accepts⟩ where
  name := rfl
  required := rfl
  set v a := by simp [Field.mandatory, Except.bind_eq_ok_iff, pure, Except.pure, ← h]

namespace Record

/-! ## Entries -/

section

variable {r : Record δ α} {shapes : List (FieldShape δ)}

/-- The names among those of some entries that are names of a shape. -/
private def seenIn (shapes : List (FieldShape δ)) (entries : List (String × δ)) : List String :=
  (entries.map (·.1)).filter fun key => key ∈ shapes.map (·.name)

/-- `field?` finds a field that fits the shape of the same name, or there is neither. -/
private theorem rel_field? (h : List.Forall₂ Field.Fits r.fields shapes) (key : String) :
    Option.Rel Field.Fits (r.field? key) (shapes.find? fun shape => shape.name == key) :=
  rel_find? h fun f shape hfit => by rw [hfit.name]

/-- If `Record.readEntries` does not fail, it has seen the names of all fields that came.  The
induction is on `entries`, with `seen` left free. -/
theorem exists_readEntries_iff (h : List.Forall₂ Field.Fits r.fields shapes)
    (hnames : (shapes.map (·.name)).Nodup) (entries : List (String × δ)) {seen : List String}
    (hseen : seen.Nodup) (seen' : List String) (a : α) :
    (∃ b, r.readEntries (fun _ => .ok ()) entries seen a = .ok (seen', b)) ↔
      seen' = (seenIn shapes entries).reverse ++ seen ∧ seen'.Nodup ∧
      ∀ entry ∈ entries, ∀ shape ∈ shapes, shape.name = entry.1 → shape.accepts entry.2 := by
  induction entries generalizing seen a with
  | nil =>
    simp only [readEntries, seenIn, List.map_nil, List.filter_nil, List.reverse_nil,
      List.nil_append, Except.ok.injEq, Prod.mk.injEq, exists_and_left, exists_eq', and_true,
      List.not_mem_nil, false_implies, implies_true]
    exact ⟨fun heq => ⟨heq.symm, heq ▸ hseen⟩, fun heq => heq.1.symm⟩
  | cons entry rest ih =>
    obtain ⟨key, v⟩ := entry
    have hrel := rel_field? h key
    rw [readEntries, List.forall_mem_cons]
    generalize hshape : shapes.find? (fun shape => shape.name == key) = shape?,
      r.field? key = f? at hrel
    cases hrel with
    | none =>
      -- The entry is no field, and no shape speaks of it.
      have hother : ∀ shape ∈ shapes, shape.name ≠ key := by
        simpa using List.find?_eq_none.1 hshape
      have hkeys : seenIn shapes ((key, v) :: rest) = seenIn shapes rest :=
        List.filter_cons_of_neg (by simpa using hother)
      have hfree : ∀ shape ∈ shapes, shape.name = key → shape.accepts v :=
        fun shape hmem heq => absurd heq (hother shape hmem)
      rw [hkeys]
      exact (ih hseen a).trans (and_congr_right' (and_congr_right' (and_iff_right hfree).symm))
    | @some f shape hfit =>
      obtain ⟨hmem, hname⟩ : shape ∈ shapes ∧ shape.name = key :=
        ⟨List.mem_of_find?_eq_some hshape, by simpa using List.find?_some hshape⟩
      have hown : (∀ other ∈ shapes, other.name = key → other.accepts v) ↔ shape.accepts v := by
        refine ⟨fun hall => hall shape hmem hname, fun hv other hother heq => ?_⟩
        rwa [List.inj_on_of_nodup_map hnames hother hmem (heq.trans hname.symm)]
      have hkeys : seenIn shapes ((key, v) :: rest) = key :: seenIn shapes rest :=
        List.filter_cons_of_pos (by simpa using ⟨shape, hmem, hname⟩)
      rw [hkeys, List.reverse_cons, List.append_assoc, hown]
      dsimp only
      split
      next hkey =>
        -- A name that was seen would be there twice.
        simp only [reduceCtorEq, exists_false, false_iff]
        rintro ⟨rfl, hnodup, -⟩
        exact (List.nodup_cons.1 (List.nodup_append.1 hnodup).2.1).1 hkey
      next hkey =>
        have hrest := fun a' => ih (List.nodup_cons.2 ⟨hkey, hseen⟩) a'
        simp only [Except.bind_eq_ok_iff]
        rw [exists_comm]
        simp only [exists_and_left, hrest, ← hfit.set v a, exists_and_right]
        constructor
        · rintro ⟨hv, hkeys, hnodup, hall⟩
          exact ⟨hkeys, hnodup, hv, hall⟩
        · rintro ⟨hkeys, hnodup, hv, hall⟩
          exact ⟨hv, hkeys, hnodup, hall⟩

/-- `Record.complete` succeeds if all required names were seen. -/
theorem exists_complete_iff (h : List.Forall₂ Field.Fits r.fields shapes) (seen : List String)
    (a : α) :
    (∃ b, r.complete seen a = .ok b) ↔
      ∀ shape ∈ shapes, shape.required = true → shape.name ∈ seen := by
  have hrel : Option.Rel Field.Fits (r.firstMissing? seen)
      (shapes.find? fun shape => shape.required && !seen.contains shape.name) :=
    rel_find? h fun f shape hfit => by rw [hfit.name, hfit.required]
  have hnone : (shapes.find? fun shape => shape.required && !seen.contains shape.name) = none ↔
      ∀ shape ∈ shapes, shape.required = true → shape.name ∈ seen := by
    simp [List.find?_eq_none]
  rw [complete, ← hnone]
  generalize (shapes.find? fun shape => shape.required && !seen.contains shape.name) = shape?,
    r.firstMissing? seen = f? at hrel
  cases hrel <;> simp

/-- `Record.ofEntries` succeeds on the `entries` that the shapes admit. -/
theorem exists_ofEntries_iff (h : List.Forall₂ Field.Fits r.fields shapes)
    (hnames : (shapes.map (·.name)).Nodup) (entries : List (String × δ)) :
    (∃ a, r.ofEntries entries = .ok a) ↔ FieldShape.Admits shapes entries := by
  have hread := fun seen' => exists_readEntries_iff h hnames entries List.nodup_nil seen' r.blank
  -- Among the names that were seen, a shape finds its own just if it is among the entries.
  have hpresent : (∀ shape ∈ shapes, shape.required = true →
        shape.name ∈ (seenIn shapes entries).reverse ++ []) ↔
      ∀ shape ∈ shapes, shape.required = true → shape.name ∈ entries.map (·.1) := by
    refine forall₂_congr fun shape hshape => imp_congr_right fun _ => ?_
    simp only [List.append_nil, List.mem_reverse, seenIn, List.mem_filter, decide_eq_true_eq,
      and_iff_left (List.mem_map_of_mem hshape)]
  simp only [ofEntries, Except.bind_eq_ok_iff]
  constructor
  · rintro ⟨a, ⟨seen, b⟩, hentries, hcomplete⟩
    obtain ⟨rfl, hnodup, haccepted⟩ := (hread seen).1 ⟨b, hentries⟩
    refine ⟨?_, haccepted, hpresent.1 ((exists_complete_iff h _ b).1 ⟨a, hcomplete⟩)⟩
    rwa [List.append_nil, List.nodup_reverse] at hnodup
  · rintro ⟨honce, haccepted, hthere⟩
    have hnodup : ((seenIn shapes entries).reverse ++ []).Nodup := by
      rwa [List.append_nil, List.nodup_reverse]
    obtain ⟨b, hentries⟩ := (hread _).2 ⟨rfl, hnodup, haccepted⟩
    obtain ⟨a, hcomplete⟩ := (exists_complete_iff h _ b).2 (hpresent.2 hthere)
    exact ⟨a, ⟨_, b⟩, hentries, hcomplete⟩

end

/-! ## Items -/

/-- `Record.readItems` leaves nothing over if the shapes admit the items. -/
theorem exists_readItems_iff (r : Record δ α) {fields : List (Field δ α)}
    {shapes : List (FieldShape δ)} (h : List.Forall₂ Field.Fits fields shapes) (count : Nat)
    (items : List δ) (a : α) :
    (∃ b, r.readItems count fields items a = .ok ([], b)) ↔
      FieldShape.AdmitsItems shapes items := by
  induction h generalizing count items a with
  | nil =>
    simp only [readItems, Except.ok.injEq, Prod.mk.injEq, exists_and_left, exists_eq', and_true]
    constructor
    · rintro rfl
      exact ⟨Nat.le_refl 0, by simp, by simp⟩
    · exact fun hitems => List.eq_nil_of_length_eq_zero (Nat.le_zero.1 hitems.length)
  | @cons f shape fields shapes hfit _ ih =>
    cases items with
    | nil =>
      rw [readItems, hfit.required]
      -- No item is left, so the fields that are left may not be required.
      split
      next hrequired =>
        simp only [reduceCtorEq, exists_false, false_iff]
        intro hitems
        have hfalse := hitems.missing shape List.mem_cons_self
        rw [hrequired] at hfalse
        cases hfalse
      next hrequired =>
        rw [ih]
        constructor
        · exact fun hitems => ⟨Nat.zero_le _, by simp,
            List.forall_mem_cons.2 ⟨Bool.eq_false_iff.2 hrequired, hitems.missing⟩⟩
        · exact fun hitems => ⟨Nat.zero_le _, by simp,
            (List.forall_mem_cons.1 hitems.missing).2⟩
    | cons v items =>
      rw [readItems]
      simp only [Except.bind_eq_ok_iff]
      rw [exists_comm]
      simp only [exists_and_left, ih, exists_and_right, hfit.set v a]
      constructor
      -- The first item belongs to the first field, whatever comes of the others.
      · rintro ⟨hv, hlength, haccepted, hmissing⟩
        exact ⟨Nat.succ_le_succ hlength, List.forall_mem_cons.2 ⟨hv, haccepted⟩, hmissing⟩
      · rintro ⟨hlength, haccepted, hmissing⟩
        obtain ⟨hv, haccepted⟩ := List.forall_mem_cons.1 haccepted
        exact ⟨hv, Nat.le_of_succ_le_succ hlength, haccepted, hmissing⟩

/-! ## Values -/

/-- `Decoder.record` succeeds on the values that have fields of the shapes of the record. -/
theorem exists_decoder_iff {r : Record Json α} {shapes : List (FieldShape Json)}
    (h : List.Forall₂ Field.Fits r.fields shapes) (hnames : (shapes.map (·.name)).Nodup)
    (v : Json) : (∃ a, Decoder.record r v = .ok a) ↔ v.HasFields shapes := by
  cases v with
  | obj members => exact exists_ofEntries_iff h hnames members
  | arr items =>
    show (∃ a, r.ofItems false items = .ok a) ↔ FieldShape.AdmitsItems shapes items
    simp only [ofItems_eq_ok_iff]
    exact exists_readItems_iff r h 0 items r.blank
  | _ => simp [Decoder.record, Json.HasFields]

end Record

/-! ## Basic values -/

namespace Json

/-- A value that is a text. -/
def IsText (v : Json) : Prop := ∃ s, v = .str s

/-- A value that is a natural number of at most 64 bits. -/
def IsWord64 (v : Json) : Prop := ∃ n : Nat, n < 0x10000000000000000 ∧ v = .int n

/-- A value that is null or one of some others. -/
def IsNullOr (accepts : Json → Prop) (v : Json) : Prop := v = .null ∨ accepts v

end Json

/-- `Decoder.text` reads texts. -/
theorem Decoder.exists_text_iff (v : Json) : (∃ s, text v = .ok s) ↔ v.IsText := by
  cases v <;> simp [text, Json.IsText]

/-- `Decoder.word64` reads natural numbers of at most 64 bits. -/
theorem Decoder.exists_word64_iff (v : Json) : (∃ n, word64 v = .ok n) ↔ v.IsWord64 := by
  cases v with
  | int n =>
    simp only [word64, Json.IsWord64, Json.int.injEq]
    split
    next h =>
      simp only [Except.ok.injEq, exists_eq', true_iff]
      exact ⟨n.toNat, by omega, (Int.toNat_of_nonneg h.1).symm⟩
    next h =>
      simp only [reduceCtorEq, exists_false, false_iff]
      rintro ⟨m, hm, rfl⟩
      exact h ⟨by omega, by omega⟩
  | _ => simp [word64, Json.IsWord64]

/-- `Decoder.nullable` reads null besides what `d` reads. -/
theorem Decoder.exists_nullable_iff {d : Decoder α} {accepts : Json → Prop}
    (h : ∀ v, (∃ x, d v = .ok x) ↔ accepts v) (v : Json) :
    (∃ x, nullable d v = .ok x) ↔ v.IsNullOr accepts := by
  cases v with
  | null => simp [nullable, Json.IsNullOr]
  | _ => simp [nullable, Json.IsNullOr, Except.bind_eq_ok_iff, pure, Except.pure, ← h]

/-! ## Envelopes -/

namespace Envelope

/-- The fields of an envelope whose results are as given. -/
def shapes (results : Json → Prop) : List (FieldShape Json) := [
  ⟨"results", true, results⟩,
  ⟨"vdom", false, Json.IsText⟩,
  ⟨"version", false, Json.IsNullOr Json.IsText⟩,
  ⟨"serial", false, Json.IsNullOr Json.IsText⟩,
  ⟨"build", false, Json.IsNullOr Json.IsWord64⟩]

/-- `Envelope.decoder` reads the values that have the fields of an envelope with results that `d`
reads. -/
theorem exists_decoder_iff [Inhabited α] {d : Decoder α} {results : Json → Prop}
    (h : ∀ v, (∃ x, d v = .ok x) ↔ results v) (v : Json) :
    (∃ e, decoder d v = .ok e) ↔ v.HasFields (shapes results) := by
  have hfits : List.Forall₂ Field.Fits (record d).fields (shapes results) :=
    .cons (Field.fits_mandatory h) <| .cons (Field.fits_optional Decoder.exists_text_iff) <|
    .cons (Field.fits_optional (Decoder.exists_nullable_iff Decoder.exists_text_iff)) <|
    .cons (Field.fits_optional (Decoder.exists_nullable_iff Decoder.exists_text_iff)) <|
    .cons (Field.fits_optional (Decoder.exists_nullable_iff Decoder.exists_word64_iff)) .nil
  exact Record.exists_decoder_iff hfits (by simp [shapes]) v

end Envelope
end FirewallProbe
