import FirewallProbe.Envelope
import FirewallProbe.Proofs.Schema.Fields
import FirewallProbe.Schema.Mixed

/-!
# Values that grow

A record passes over members that are none of its fields, so a value that is given such members, at
any depth, is read as before.  An `Extension` says what a value may grow into; there is one for each
shape.  New members come only into objects that are read as records: in a dictionary, or next to the
fixed fields of a mixed object, any key is data.

## Key results

- `Record.Respects.decoder`: a record is read alike
- `Decoder.Respects.list` / `dict` / `nullable`: so are lists, dictionaries and what may be null
- `MixedRecord.respects_decoder`: so are objects that mix fixed fields with dynamic entries
-/

namespace FirewallProbe

variable {α β : Type}

/-- What a value may grow into. -/
abbrev Extension := Json → Json → Prop

namespace Extension

/-- The items of a list grow. -/
inductive Items (R : Extension) : Extension
  | same (v : Json) : Items R v v
  | items {vs vs' : List Json} : List.Forall₂ R vs vs' → Items R (.arr vs) (.arr vs')

/-- The values of a dictionary grow. -/
inductive Values (R : Extension) : Extension
  | same (v : Json) : Values R v v
  | members {ms ms' : List (String × Json)} :
      List.Forall₂ (fun m m' => m.1 = m'.1 ∧ R m.2 m'.2) ms ms' → Values R (.obj ms) (.obj ms')

/-- The value under `name` stays, or it grows if `nested` lists an extension for the name. -/
def At (nested : List (String × Extension)) (name : String) : Extension := fun v v' =>
  v = v' ∨ ∃ R, (name, R) ∈ nested ∧ R v v'

/-- Members with other names than `names` come in between, and the values of fields grow as `nested`
says. -/
inductive Members (names : List String) (nested : List (String × Extension)) :
    List (String × Json) → List (String × Json) → Prop
  | nil : Members names nested [] []
  | kept {name : String} {v v' : Json} {ms ms' : List (String × Json)} :
      At nested name v v' → Members names nested ms ms' →
      Members names nested ((name, v) :: ms) ((name, v') :: ms')
  | inserted {name : String} {v : Json} {ms ms' : List (String × Json)} :
      name ∉ names → Members names nested ms ms' → Members names nested ms ((name, v) :: ms')

/-- Items that stand for fields, in the order of `names`, grow like these. -/
inductive Positions (nested : List (String × Extension)) :
    List String → List Json → List Json → Prop
  | ended (names : List String) : Positions nested names [] []
  | field {name : String} {names : List String} {v v' : Json} {vs vs' : List Json} :
      At nested name v v' → Positions nested names vs vs' →
      Positions nested (name :: names) (v :: vs) (v' :: vs')
  | surplus (vs : List Json) : Positions nested [] vs vs

/-- A record with some fields gets other members, and the values of its fields grow. -/
inductive Fields (names : List String) (nested : List (String × Extension)) : Extension
  | same (v : Json) : Fields names nested v v
  | members {ms ms' : List (String × Json)} :
      Members names nested ms ms' → Fields names nested (.obj ms) (.obj ms')
  | items {vs vs' : List Json} :
      Positions nested names vs vs' → Fields names nested (.arr vs) (.arr vs')

/-- The value of a fixed field grows, or that of a dynamic entry. -/
structure MixedMember (names : List String) (nested : List (String × Extension))
    (entry : Extension) (m m' : String × Json) : Prop where
  name : m.1 = m'.1
  fixed : m.1 ∈ names → At nested m.1 m.2 m'.2
  dynamic : m.1 ∉ names → entry m.2 m'.2

/-- Fixed fields and dynamic entries grow, but none comes in. -/
inductive Mixed (names : List String) (nested : List (String × Extension)) (entry : Extension) :
    Extension
  | same (v : Json) : Mixed names nested entry v v
  | members {ms ms' : List (String × Json)} :
      List.Forall₂ (MixedMember names nested entry) ms ms' →
      Mixed names nested entry (.obj ms) (.obj ms')

/-- No item comes in where items stand for fields. -/
theorem Positions.length_eq {nested : List (String × Extension)} {names : List String}
    {vs vs' : List Json} (h : Positions nested names vs vs') : vs.length = vs'.length := by
  induction h with
  | ended => rfl
  | field _ _ ih => exact congrArg (· + 1) ih
  | surplus => rfl

end Extension

open Extension

/-- The decoder `d` reads alike, up to `T`, what a value was and what it grew into by `R`. -/
def Decoder.Respects (d : Decoder α) (R : Extension) (T : α → α → Prop) : Prop :=
  ∀ v v', R v v' → Except.Rel T (d v) (d v')

/-- A decoder that respects `R` up to equality reads the same before and after a value grew. -/
theorem Decoder.Respects.eq {d : Decoder α} {R : Extension} (h : d.Respects R Eq) {v v' : Json}
    (hv : R v v') : d v = d v' :=
  Except.rel_eq_iff.1 (h v v' hv)

/-! ## Records -/

namespace Record

/-- What a record may grow into, where the values of some fields grow. -/
def extension (r : Record Json α) (nested : List (String × Extension)) : Extension :=
  Fields r.names nested

/-- The fields of a record are read alike into related records, whether their values stay or
grow. -/
structure Respects (r : Record Json α) (nested : List (String × Extension))
    (T : α → α → Prop) : Prop where
  refl : ∀ a, T a a
  same : ∀ f ∈ r.fields, ∀ v a a', T a a' → Except.Rel T (f.set v a) (f.set v a')
  grown : ∀ f ∈ r.fields, ∀ R, (f.name, R) ∈ nested → ∀ v v' a a', R v v' → T a a' →
    Except.Rel T (f.set v a) (f.set v' a')

/-- For equal records it is enough to look at the fields whose values grow. -/
theorem respects_eq {r : Record Json α} {nested : List (String × Extension)}
    (h : ∀ f ∈ r.fields, ∀ R, (f.name, R) ∈ nested → ∀ v v' a, R v v' → f.set v a = f.set v' a) :
    r.Respects nested Eq where
  refl _ := rfl
  same _ _ _ _ _ haa' := Except.rel_eq_iff.2 (haa' ▸ rfl)
  grown f hf R hR v v' a _ hv haa' := Except.rel_eq_iff.2 (haa' ▸ h f hf R hR v v' a hv)

/-- A record whose fields do not grow is read the same. -/
theorem respects_nil (r : Record Json α) : r.Respects [] Eq :=
  respects_eq fun _ _ _ hR => absurd hR List.not_mem_nil

namespace Respects

variable {r : Record Json α} {nested : List (String × Extension)} {T : α → α → Prop}

/-- One more field, with the decoder `d`, whose values grow by `R`. -/
theorem cons (h : r.Respects nested Eq) (hnames : r.names.Nodup) {name : String} {d : Decoder β}
    {put : β → α → α} {R : Extension} (hfield : r.field? name = some (.optional name d put))
    (hd : d.Respects R Eq) : r.Respects ((name, R) :: nested) Eq := by
  refine respects_eq fun f hf S hS v v' a hv => ?_
  rcases List.mem_cons.1 hS with heq | hS
  · obtain ⟨hname, rfl⟩ := Prod.mk.inj heq
    rw [eq_of_field?_eq_some hnames hf (hname ▸ hfield)]
    show (d v >>= _) = (d v' >>= _)
    rw [hd.eq hv]
  · exact Except.rel_eq_iff.1 (h.grown f hf S hS v v' a a hv rfl)

/-- `Field.set` keeps records related, whether the value stays or grows. -/
theorem set (h : r.Respects nested T) {f : Field Json α} (hf : f ∈ r.fields) {v v' : Json}
    {a a' : α} (hv : At nested f.name v v') (haa' : T a a') :
    Except.Rel T (f.set v a) (f.set v' a') := by
  rcases hv with rfl | ⟨R, hR, hv⟩
  · exact h.same f hf v a a' haa'
  · exact h.grown f hf R hR v v' a a' hv haa'

/-- `readEntries` passes over new members, and reads those that stay alike. -/
theorem readEntries (h : r.Respects nested T) {ms ms' : List (String × Json)}
    (hms : Members r.names nested ms ms') (seen : List String) {a a' : α} (haa' : T a a') :
    Except.Rel (fun x y => x.1 = y.1 ∧ T x.2 y.2)
      (r.readEntries (fun _ => .ok ()) ms seen a)
      (r.readEntries (fun _ => .ok ()) ms' seen a') := by
  -- By induction on what became of the members; what was read so far goes along.
  induction hms generalizing seen a a' with
  | nil => exact .ok ⟨rfl, haa'⟩
  | @kept name v v' ms ms' hv _ ih =>
    cases hfield : r.field? name with
    | none =>
      rw [readEntries_cons_of_field?_eq_none hfield rfl,
        readEntries_cons_of_field?_eq_none hfield rfl]
      exact ih seen haa'
    | some f =>
      obtain ⟨hf, rfl⟩ := name_of_field?_eq_some hfield
      rw [Record.readEntries, Record.readEntries]
      simp only [hfield]
      -- A name that was seen is refused in both.
      split
      · exact .error _
      · exact (h.set hf hv haa').bind fun b b' hbb' =>
          ih (f.name :: seen) hbb'
  | @inserted name v ms ms' hname _ ih =>
    -- No field has the name, so the new member is passed over, whatever its value is.
    have hfield : r.field? name = none :=
      List.find?_eq_none.2 fun f hf heq => hname (List.mem_map.2 ⟨f, hf, by simpa using heq⟩)
    rw [readEntries_cons_of_field?_eq_none hfield rfl]
    exact ih seen haa'

/-- `readItems` reads items alike, field by field. -/
private theorem readItems (h : r.Respects nested T) (count : Nat) {fields : List (Field Json α)}
    (hfields : ∀ f ∈ fields, f ∈ r.fields) {vs vs' : List Json}
    (hvs : Positions nested (fields.map (·.name)) vs vs') {a a' : α} (haa' : T a a') :
    Except.Rel (fun x y => x.1 = y.1 ∧ T x.2 y.2)
      (r.readItems count fields vs a) (r.readItems count fields vs' a') := by
  induction fields generalizing count vs vs' a a' with
  | nil => cases hvs <;> exact .ok ⟨rfl, haa'⟩
  | cons f fields ih =>
    obtain ⟨hf, hrest⟩ := List.forall_mem_cons.1 hfields
    cases hvs with
    | ended =>
      -- There are no more items; the fields that are left are mandatory or not in both.
      rw [Record.readItems, Record.readItems]
      split
      · exact .error _
      · exact ih count hrest (.ended _) haa'
    | field hv hvs =>
      rw [Record.readItems, Record.readItems]
      exact (h.set hf hv haa').bind fun b b' hbb' => ih (count + 1) hrest hvs hbb'

/-- `ofEntries` reads entries alike before and after members came in. -/
theorem ofEntries (h : r.Respects nested T) {ms ms' : List (String × Json)}
    (hms : Members r.names nested ms ms') : Except.Rel T (r.ofEntries ms) (r.ofEntries ms') := by
  refine (h.readEntries hms [] (h.refl r.blank)).bind fun x y hxy => ?_
  dsimp only
  rw [hxy.1, complete, complete]
  split
  · exact .error _
  · exact .ok hxy.2

/-- `Decoder.record` reads a record alike before and after it grew. -/
theorem decoder (h : r.Respects nested T) :
    (Decoder.record r).Respects (r.extension nested) T := by
  rintro v v' (_ | hms | hvs)
  · exact .refl h.refl _
  · exact h.ofEntries hms
  · refine (readItems h 0 (fun _ hf => hf) hvs (h.refl r.blank)).bind fun x y hxy => ?_
    dsimp only
    -- The error for items left over tells the number of all items.
    rw [hxy.1, hvs.length_eq]
    split
    · exact .ok hxy.2
    · exact .error _

end Respects
end Record

/-! ## Other shapes -/

namespace Decoder.Respects

variable {d : Decoder α} {R : Extension}

/-- `Decoder.list` reads lists alike, item by item. -/
theorem forall₂_list {T : α → α → Prop} (h : d.Respects R T) (hT : ∀ a, T a a) :
    (Decoder.list d).Respects (Items R) (List.Forall₂ T) := by
  rintro v v' (_ | hvs)
  · exact .refl (fun _ => List.forall₂_same.2 fun a _ => hT a) _
  · exact .mapM hvs h

/-- `Decoder.list` reads the same list if each item is read the same. -/
theorem list (h : d.Respects R Eq) : (Decoder.list d).Respects (Items R) Eq := by
  have hlist := h.forall₂_list fun _ => rfl
  rwa [List.forall₂_eq_eq_eq] at hlist

/-- `Decoder.dict` reads dictionaries alike, entry by entry. -/
theorem dict (h : d.Respects R Eq) : (Decoder.dict d).Respects (Values R) Eq := by
  rintro v v' (_ | hms)
  · exact Except.rel_eq_iff.2 rfl
  · show Except.Rel Eq (_ >>= _) (_ >>= _)
    refine Except.Rel.bind (R := List.Forall₂ Eq) (.mapM hms fun m m' hm => ?_) fun as bs hab => ?_
    · obtain ⟨key, v⟩ := m
      obtain ⟨key', v'⟩ := m'
      obtain ⟨rfl, hv⟩ := hm
      rw [Except.rel_eq_iff]
      exact congrArg (fun x => x >>= fun a => .ok (key, a)) (h.eq hv)
    · rw [List.forall₂_eq_eq_eq] at hab
      exact Except.rel_eq_iff.2 (hab ▸ rfl)

/-- `Decoder.nullable` reads a record that may be null alike; null does not grow. -/
theorem nullable {names : List String} {nested : List (String × Extension)}
    (h : d.Respects (Fields names nested) Eq) :
    (Decoder.nullable d).Respects (Fields names nested) Eq := by
  intro v v' hv
  have hread := h.eq hv
  rw [Except.rel_eq_iff]
  -- What is not null before it grows is not null afterwards.
  cases hv with
  | same => rfl
  | members _ => exact congrArg (fun x => x >>= fun a => .ok (some a)) hread
  | items _ => exact congrArg (fun x => x >>= fun a => .ok (some a)) hread

end Decoder.Respects

/-! ## Mixed objects -/

namespace MixedRecord

variable {r : Record Json α} {entry : Decoder β} {names : List String}
  {nested : List (String × Extension)} {E : Extension}

/-- The fixed part of an object gets no new members. -/
private theorem members_fixedMembers {ms ms' : List (String × Json)}
    (h : List.Forall₂ (MixedMember names nested E) ms ms') :
    Members r.names nested (fixedMembers names ms) (fixedMembers names ms') := by
  induction h with
  | nil => exact .nil
  | @cons m m' ms ms' hm _ ih =>
    obtain ⟨name, v⟩ := m
    obtain ⟨name', v'⟩ := m'
    obtain ⟨rfl, hnested, -⟩ := hm
    by_cases hname : name ∈ names
    · simpa [fixedMembers, hname] using Members.kept (hnested hname) ih
    · simpa [fixedMembers, hname] using ih

/-- `decodeEntries` reads the dynamic part the same before and after its values grew. -/
private theorem decodeEntries_dynamicMembers_congr (hentry : entry.Respects E Eq)
    {ms ms' : List (String × Json)} (h : List.Forall₂ (MixedMember names nested E) ms ms') :
    decodeEntries entry (dynamicMembers names ms) =
      decodeEntries entry (dynamicMembers names ms') := by
  induction h with
  | nil => rfl
  | @cons m m' ms ms' hm _ ih =>
    obtain ⟨name, v⟩ := m
    obtain ⟨name', v'⟩ := m'
    obtain ⟨rfl, -, hE⟩ := hm
    -- A named member is left out before and after; any other one is read the same.
    by_cases hname : name ∈ names
    · simpa [dynamicMembers, hname] using ih
    · have hms : dynamicMembers names ((name, v) :: ms) = (name, v) :: dynamicMembers names ms := by
        simp [dynamicMembers, hname]
      have hms' : dynamicMembers names ((name, v') :: ms') =
          (name, v') :: dynamicMembers names ms' := by simp [dynamicMembers, hname]
      rw [hms, hms', decodeEntries, decodeEntries, hentry.eq (hE hname), ih]

/-- `split` reads the two parts of an object on their own, each as before it grew. -/
theorem split_congr (hr : r.Respects nested Eq) (hentry : entry.Respects E Eq)
    {ms ms' : List (String × Json)} (h : List.Forall₂ (MixedMember names nested E) ms ms') :
    split names (Decoder.record r) entry ms = split names (Decoder.record r) entry ms' := by
  have hread : Decoder.record r (.obj (fixedMembers names ms)) =
      Decoder.record r (.obj (fixedMembers names ms')) :=
    Except.rel_eq_iff.1 (hr.ofEntries (members_fixedMembers h))
  rw [split, split, hread, decodeEntries_dynamicMembers_congr hentry h]

/-- `decode` reads the same before and after an object grew. -/
theorem decode_congr (hr : r.Respects nested Eq) (hentry : entry.Respects E Eq) {v v' : Json}
    (h : Mixed names nested E v v') :
    decode names (Decoder.record r) entry v = decode names (Decoder.record r) entry v' := by
  cases h with
  | same => rfl
  | members hms => rw [decode, decode, split_congr hr hentry hms]

/-- `MixedRecord.decoder` reads the same before and after an object grew. -/
theorem respects_decoder (hr : r.Respects nested Eq) (hentry : entry.Respects E Eq) :
    (decoder names (Decoder.record r) entry).Respects (Mixed names nested E) Eq := by
  rintro v v' (_ | hms)
  · exact Except.rel_eq_iff.2 rfl
  · rw [Except.rel_eq_iff]
    exact congrArg (Except.mapError PartFault.mismatch) (split_congr hr hentry hms)

end MixedRecord

/-! ## Envelopes -/

namespace Envelope

variable {R : Extension}

/-- What an envelope may grow into. -/
def extension (R : Extension) : Extension := (record Decoder.any).extension [("results", R)]

/-- What a list of envelopes may grow into. -/
def listExtension (R : Extension) : Extension := Items (extension R)

/-- Envelopes whose results are related by `T`, in the same wrapping. -/
def Agree (T : α → α → Prop) (e e' : Envelope α) : Prop :=
  ∃ results, T e.results results ∧ e' = { e with results }

theorem agree_eq_iff {e e' : Envelope α} : Agree Eq e e' ↔ e = e' := by
  constructor
  · rintro ⟨_, rfl, rfl⟩
    rfl
  · rintro rfl
    exact ⟨_, rfl, rfl⟩

/-- A field of the wrapping leaves the results related. -/
private theorem rel_optional {T : α → α → Prop} {name : String} {d : Decoder β}
    {put : β → Envelope α → Envelope α}
    (h : ∀ x e e', Agree T e e' → Agree T (put x e) (put x e')) {v : Json} {e e' : Envelope α}
    (he : Agree T e e') : Except.Rel (Agree T) ((Field.optional name d put).set v e)
      ((Field.optional name d put).set v e') :=
  (Except.Rel.refl (R := Eq) (fun _ => rfl) (d v)).bind fun x _ hxy => hxy ▸ .ok (h x e e' he)

/-- Related results leave the wrapping alike. -/
private theorem rel_results {T : α → α → Prop} {x x' : Except Mismatch α} {e e' : Envelope α}
    (hx : Except.Rel T x x') (he : Agree T e e') :
    Except.Rel (Agree T) (x >>= fun a => .ok { e with results := a })
      (x' >>= fun a => .ok { e' with results := a }) :=
  hx.bind fun _ a' haa' => by
    obtain ⟨_, -, rfl⟩ := he
    exact .ok ⟨a', haa', rfl⟩

/-- An envelope is read alike if `d` reads its results alike. -/
theorem respects_record [Inhabited α] {d : Decoder α} {T : α → α → Prop} (h : d.Respects R T)
    (hT : ∀ a, T a a) : (record d).Respects [("results", R)] (Agree T) where
  refl e := ⟨e.results, hT _, rfl⟩
  same f hf v e e' he := by
    simp only [record, List.mem_cons, List.not_mem_nil, or_false] at hf
    rcases hf with rfl | rfl | rfl | rfl | rfl
    case inl => exact rel_results (.refl hT (d v)) he
    all_goals exact rel_optional (fun _ _ _ ⟨_, hr, heq⟩ => ⟨_, hr, heq ▸ rfl⟩) he
  grown f hf S hS v v' e e' hv he := by
    -- Of the five fields only the results grow.
    obtain ⟨hname, rfl⟩ := Prod.mk.inj (List.mem_singleton.1 hS)
    simp only [record, List.mem_cons, List.not_mem_nil, or_false] at hf
    rcases hf with rfl | rfl | rfl | rfl | rfl
    case inl => exact rel_results (h v v' hv) he
    all_goals simp [Field.optional] at hname

/-- `listDecoder` reads envelopes alike if `d` reads their results alike. -/
theorem respects_listDecoder_of [Inhabited α] {d : Decoder α} {T : α → α → Prop}
    (h : d.Respects R T) (hT : ∀ a, T a a) :
    (listDecoder d).Respects (listExtension R) (List.Forall₂ (Agree T)) :=
  (respects_record h hT).decoder.forall₂_list fun e => ⟨e.results, hT _, rfl⟩

theorem respects_decoder [Inhabited α] {d : Decoder α} (h : d.Respects R Eq) :
    (decoder d).Respects (extension R) Eq := by
  have hrecord := (respects_record h fun _ => rfl).decoder
  rwa [show Agree (@Eq α) = Eq from funext₂ fun _ _ => propext agree_eq_iff] at hrecord

theorem respects_listDecoder [Inhabited α] {d : Decoder α} (h : d.Respects R Eq) :
    (listDecoder d).Respects (listExtension R) Eq :=
  (respects_decoder h).list

end Envelope
end FirewallProbe
