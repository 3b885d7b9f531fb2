import FirewallProbe.Envelope
import FirewallProbe.Proofs.Schema.Fields
import FirewallProbe.Proofs.Schema.Refinement
import FirewallProbe.Schema.Mixed

/-!
# Results that are read later

The results of an envelope may be read while the envelope is, or kept as they are and read
afterwards.  Both succeed on the same documents and with the same envelopes, since no other field of
an envelope depends on its results.  An object with fixed fields and dynamic entries is read alike
in both ways, too: on its own, and as a part of another document.

## Key results

- `Record.AlikeBut.readEntries_map` / `readItems_map`: reading the fields that are alike
- `Envelope.decoder_eq_ok_iff` / `listDecoder_eq_ok_iff`: results that are read later
- `MixedRecord.split_object` / `refused_of_not_object`: what the two ways have in common
- `MixedRecord.entry_points_agree`: both ways to read an object that mixes fixed and dynamic fields
-/

namespace FirewallProbe

variable {α β δ γ : Type}

/-! ## Records that differ in one field -/

/-- Fields with one name; if it is not `key`, their values are read alike into a record and into
what `f` makes of it. -/
structure Field.AlikeBut (key : String) (f : α → β) (a : Field δ α) (b : Field δ β) : Prop where
  name : a.name = b.name
  required : a.required = b.required
  set : a.name ≠ key → ∀ v x, b.set v (f x) = (a.set v x).map f

/-- Records with the same fields, all of which but that of `key` are read alike. -/
structure Record.AlikeBut (key : String) (f : α → β) (r : Record δ α) (q : Record δ β) : Prop where
  name : r.name = q.name
  fields : List.Forall₂ (Field.AlikeBut key f) r.fields q.fields

/-- An optional field is read alike if `put'` puts its value in place as `put` does. -/
theorem Field.alikeBut_optional {key : String} {f : α → β} (name : String)
    (read : δ → Except Mismatch γ) {put : γ → α → α} {put' : γ → β → β}
    (h : ∀ x a, put' x (f a) = f (put x a)) :
    Field.AlikeBut key f (.optional name read put) (.optional name read put') where
  name := rfl
  required := rfl
  set _ v a := by
    show (do return put' (← read v) (f a)) = Except.map f (do return put (← read v) a)
    cases read v with
    | error cause => rfl
    | ok x => exact congrArg Except.ok (h x a)

namespace Record.AlikeBut

variable {key : String} {f : α → β} {r : Record δ α} {q : Record δ β}

/-- `field?` finds of one name fields that are alike, or none in either record. -/
theorem field? (h : r.AlikeBut key f q) (name : String) :
    Option.Rel (Field.AlikeBut key f) (r.field? name) (q.field? name) :=
  rel_find? h.fields fun a b hab => by rw [hab.name]

/-- Once the field of `key` was seen, `readEntries` reads entries alike. -/
theorem readEntries_map (h : r.AlikeBut key f q) (check : δ → Except Mismatch Unit)
    (entries : List (String × δ)) {seen : List String} (hseen : key ∈ seen) (a : α) :
    q.readEntries check entries seen (f a) =
      (r.readEntries check entries seen a).map (Prod.map id f) := by
  induction entries generalizing seen a with
  | nil => rfl
  | cons entry rest ih =>
    obtain ⟨name, v⟩ := entry
    have hfield := h.field? name
    rw [Record.readEntries, Record.readEntries]
    generalize hr : r.field? name = a?, q.field? name = b? at hfield
    cases hfield with
    | none =>
      cases check v with
      | error cause => rfl
      | ok _ => exact ih hseen a
    | @some a' b' hab =>
      dsimp only
      split
      next => rfl
      next hname =>
        -- The field that differs does not come again, so this one is another.
        have hother : a'.name ≠ key := by
          rw [(name_of_field?_eq_some hr).2]
          exact fun heq => hname (heq ▸ hseen)
        rw [hab.set hother]
        cases a'.set v a with
        | error cause => rfl
        | ok c => exact ih (List.mem_cons_of_mem _ hseen) c

/-- `readItems` reads items alike into fields that are not that of `key`. -/
theorem readItems_map (h : r.AlikeBut key f q) {as : List (Field δ α)} {bs : List (Field δ β)}
    (hfields : List.Forall₂ (Field.AlikeBut key f) as bs) (hother : ∀ a ∈ as, a.name ≠ key)
    (count : Nat) (items : List δ) (a : α) :
    q.readItems count bs items (f a) = (r.readItems count as items a).map (Prod.map id f) := by
  induction hfields generalizing count items a with
  | nil => rfl
  | @cons a' b' as bs hab _ ih =>
    obtain ⟨hfirst, hrest⟩ := List.forall_mem_cons.1 hother
    cases items with
    | nil =>
      rw [Record.readItems, Record.readItems, hab.required, h.name, h.fields.length_eq]
      split
      next => rfl
      next => exact ih hrest count [] a
    | cons v items =>
      rw [Record.readItems, Record.readItems, hab.set hfirst]
      cases a'.set v a with
      | error cause => rfl
      | ok c => exact ih hrest (count + 1) items c

end Record.AlikeBut

/-- Members that are related through others are related in two steps. -/
private theorem forall₂_exists_iff {R : α → γ → Prop} {S : γ → β → Prop} {as : List α}
    {bs : List β} : List.Forall₂ (fun a b => ∃ c, R a c ∧ S c b) as bs ↔
      ∃ cs, List.Forall₂ R as cs ∧ List.Forall₂ S cs bs := by
  constructor
  · intro h
    induction h with
    | nil => exact ⟨[], .nil, .nil⟩
    | cons hab _ ih =>
      obtain ⟨c, hac, hcb⟩ := hab
      obtain ⟨cs, has, hbs⟩ := ih
      exact ⟨c :: cs, .cons hac has, .cons hcb hbs⟩
  · rintro ⟨cs, has, hbs⟩
    induction has generalizing bs with
    | nil =>
      cases hbs
      exact .nil
    | cons hac _ ih =>
      cases hbs with
      | cons hcb hbs => exact .cons ⟨_, hac, hcb⟩ (ih hbs)

/-! ## Envelopes -/

namespace Envelope

/-- An envelope with other results. -/
def withResults (e : Envelope α) (results : β) : Envelope β where
  results := results
  vdom := e.vdom
  version := e.version
  serial := e.serial
  build := e.build

/-- What the envelope `raw` is when its results are read by `d`. -/
def IsRead (d : Decoder α) (raw : Envelope Json) (e : Envelope α) : Prop :=
  d raw.results = .ok e.results ∧ raw.withResults e.results = e

/-- Results may be read by `d` later, if what is read after them is read alike with any results, as
`hnext` says, and keeps those that are there, as `hkept` says. -/
private theorem bind_eq_ok_iff_isRead {σ : Type} {d : Decoder α} {v : Json}
    {next : α → Except Mismatch (σ × Envelope α)} {later : Except Mismatch (σ × Envelope Json)}
    (hnext : ∀ x, next x = later.map (Prod.map id (·.withResults x)))
    (hkept : later = later.map (Prod.map id (·.withResults v))) (s : σ) (e : Envelope α) :
    (d v >>= next) = .ok (s, e) ↔ ∃ raw, later = .ok (s, raw) ∧ IsRead d raw e := by
  -- What is read later kept the value of the results.
  have hresults : ∀ s raw, later = .ok (s, raw) → raw.results = v := by
    intro s raw hlater
    rw [hlater] at hkept
    exact congrArg (fun result => result.2.results) (Except.ok.inj hkept)
  rw [Except.bind_eq_ok_iff]
  constructor
  · rintro ⟨x, hx, hread⟩
    rw [hnext] at hread
    obtain ⟨⟨_, raw⟩, hlater, heq⟩ := Except.map_eq_ok_iff.1 hread
    obtain ⟨rfl, rfl⟩ := Prod.mk.inj heq
    exact ⟨raw, hlater, by rwa [hresults _ raw hlater], rfl⟩
  · rintro ⟨raw, hlater, hx, heq⟩
    refine ⟨e.results, by rwa [← hresults _ raw hlater], ?_⟩
    rw [hnext, hlater]
    exact congrArg (fun e' => Except.ok (s, e')) heq

variable [Inhabited α] [Inhabited β]

/-- `Envelope.record` reads envelopes alike but for their results. -/
theorem alikeBut_record (d : Decoder α) (d' : Decoder β) (results : β) :
    (record d).AlikeBut "results" (·.withResults results) (record d') where
  name := rfl
  fields :=
    .cons ⟨rfl, rfl, fun h => absurd rfl h⟩ <|
      .cons (Field.alikeBut_optional _ _ fun _ _ => rfl) <|
      .cons (Field.alikeBut_optional _ _ fun _ _ => rfl) <|
      .cons (Field.alikeBut_optional _ _ fun _ _ => rfl) <|
      .cons (Field.alikeBut_optional _ _ fun _ _ => rfl) .nil

/-- `ofEntries` reads an envelope from entries among which its results were seen. -/
theorem ofEntries_eq_ok_iff (d : Decoder α) (members : List (String × Json)) (e : Envelope α) :
    (record d).ofEntries members = .ok e ↔ ∃ seen, "results" ∈ seen ∧
      (record d).readEntries (fun _ => .ok ()) members [] (record d).blank = .ok (seen, e) := by
  have hcomplete : ∀ seen e', (record d).complete seen e' = .ok e ↔ "results" ∈ seen ∧ e' = e := by
    intro seen e'
    by_cases hseen : "results" ∈ seen <;>
      simp [Record.complete, Record.firstMissing?, record, Field.mandatory, Field.optional, hseen]
  simp only [Record.ofEntries, Except.bind_eq_ok_iff, Prod.exists, hcomplete]
  constructor
  · rintro ⟨seen, _, hread, hseen, rfl⟩
    exact ⟨seen, hseen, hread⟩
  · rintro ⟨seen, hseen, hread⟩
    exact ⟨seen, e, hread, hseen, rfl⟩

/-- `readEntries` may read the results where they stand among the `entries`, or leave them for
later.  The induction is on `entries`; once the results were seen, `readEntries_map` covers the
rest. -/
theorem readEntries_eq_ok_iff (d : Decoder α) (check : Json → Except Mismatch Unit)
    (entries : List (String × Json)) {seen seen' : List String} (hseen : "results" ∉ seen)
    (hseen' : "results" ∈ seen') (raw : Envelope Json) (blank : α) (e : Envelope α) :
    (record d).readEntries check entries seen (raw.withResults blank) = .ok (seen', e) ↔
      ∃ raw', (record Decoder.any).readEntries check entries seen raw = .ok (seen', raw') ∧
        IsRead d raw' e := by
  induction entries generalizing seen raw with
  | nil =>
    have hne : seen ≠ seen' := fun heq => hseen (heq ▸ hseen')
    simp [Record.readEntries, hne]
  | cons entry rest ih =>
    obtain ⟨name, v⟩ := entry
    rw [Record.readEntries, Record.readEntries]
    by_cases hname : name = "results"
    -- The results: nothing that is read after them depends on them, so they can wait.
    · subst hname
      have hfield : (record d).field? "results" =
          some (.mandatory "results" d fun v e => { e with results := v }) := rfl
      have hany : (record Decoder.any).field? "results" =
          some (.mandatory "results" Decoder.any fun v e => { e with results := v }) := rfl
      simp only [hfield, hany, if_neg hseen, Field.mandatory, bind_assoc, pure_bind]
      exact bind_eq_ok_iff_isRead
        (fun x => (alikeBut_record Decoder.any d x).readEntries_map check rest List.mem_cons_self
          (raw.withResults v))
        ((alikeBut_record Decoder.any Decoder.any v).readEntries_map check rest List.mem_cons_self
          (raw.withResults v)) seen' e
    -- Any other entry is read alike by both records, or passed over by both.
    · have hfield := (alikeBut_record Decoder.any d blank).field? name
      generalize hr : (record Decoder.any).field? name = a?, (record d).field? name = b? at hfield
      cases hfield with
      | none =>
        cases check v with
        | error cause => simp [bind, Except.bind]
        | ok _ => exact ih hseen raw
      | @some a b hab =>
        dsimp only
        split
        next => simp
        next =>
          have hother : a.name ≠ "results" := by
            rw [(Record.name_of_field?_eq_some hr).2]
            exact hname
          rw [hab.set hother]
          cases a.set v raw with
          | error cause => simp [bind, Except.bind, Except.map]
          | ok raw' =>
            exact ih (List.not_mem_cons_of_ne_of_not_mem (Ne.symm hname) hseen) raw'

/-- `readItems` may read the results from the first item of a list, or leave them for later. -/
theorem readItems_eq_ok_iff (d : Decoder α) (items rest : List Json) (e : Envelope α) :
    (record d).readItems 0 (record d).fields items (record d).blank = .ok (rest, e) ↔
      ∃ raw, (record Decoder.any).readItems 0 (record Decoder.any).fields items
          (record Decoder.any).blank = .ok (rest, raw) ∧ IsRead d raw e := by
  cases items with
  | nil => simp [Record.readItems, record, Field.mandatory]
  | cons v items =>
    let raw := (record Decoder.any).blank.withResults v
    -- The other fields stand behind the results.
    have hothers : ∀ {β : Type} [Inhabited β] (d' : Decoder β) (x : β),
        (record d').readItems 1 (record d').fields.tail items (raw.withResults x) =
          ((record Decoder.any).readItems 1 (record Decoder.any).fields.tail items raw).map
            (Prod.map id (·.withResults x)) := fun d' x =>
      have halike := alikeBut_record Decoder.any d' x
      halike.readItems_map (List.forall₂_cons.1 halike.fields).2
        (by simp [Field.optional]) 1 items raw
    show ((do return raw.withResults (← d v)) >>= (record d).readItems 1 _ items) = _ ↔ _
    simp only [bind_assoc, pure_bind]
    exact bind_eq_ok_iff_isRead (hothers d) (hothers Decoder.any v) rest e

/-- Reading an envelope with its results comes to the same as reading it with any results and these
afterwards. -/
theorem decoder_eq_ok_iff (d : Decoder α) (v : Json) (e : Envelope α) :
    decoder d v = .ok e ↔ ∃ raw, decoder Decoder.any v = .ok raw ∧ IsRead d raw e := by
  cases v with
  | obj members =>
    have hread : ∀ seen, "results" ∈ seen → _ := fun seen hseen =>
      readEntries_eq_ok_iff d (fun _ => .ok ()) members List.not_mem_nil hseen
        (record Decoder.any).blank default e
    show (record d).ofEntries members = _ ↔ ∃ raw, (record _).ofEntries members = _ ∧ _
    simp only [ofEntries_eq_ok_iff]
    constructor
    · rintro ⟨seen, hseen, h⟩
      obtain ⟨raw, hraw, he⟩ := (hread seen hseen).1 h
      exact ⟨raw, ⟨seen, hseen, hraw⟩, he⟩
    · rintro ⟨raw, ⟨seen, hseen, hraw⟩, he⟩
      exact ⟨seen, hseen, (hread seen hseen).2 ⟨raw, hraw, he⟩⟩
  | arr items =>
    show (record d).ofItems false items = _ ↔ ∃ raw, (record _).ofItems false items = _ ∧ _
    simp only [Record.ofItems_eq_ok_iff, readItems_eq_ok_iff d]
  | _ => simp [decoder, Decoder.record]

/-- `listDecoder` may leave the results of all envelopes for later too. -/
theorem listDecoder_eq_ok_iff (d : Decoder α) (v : Json) (es : List (Envelope α)) :
    listDecoder d v = .ok es ↔
      ∃ raws, listDecoder Decoder.any v = .ok raws ∧ List.Forall₂ (IsRead d) raws es := by
  cases v with
  | arr items =>
    show items.mapM (decoder d) = _ ↔ ∃ raws, items.mapM (decoder Decoder.any) = _ ∧ _
    simp only [Except.mapM_eq_ok_iff, decoder_eq_ok_iff d]
    exact forall₂_exists_iff
  | _ => simp [listDecoder, Decoder.list]

end Envelope

/-! ## Objects that mix fixed and dynamic fields -/

namespace MixedRecord

variable (names : List String) (fixed : Decoder α) (entry : Decoder β)

/-- The wording of a `fault` does not depend on what is around the object. -/
theorem message_mismatch (fault : PartFault) : fault.mismatch.message = fault.message := by
  cases fault <;> rfl

/-- `decode` and `decoder` both split an object by `split`, and differ in how they wrap its
fault. -/
theorem split_object (members : List (String × Json)) :
    decode names fixed entry (.obj members) =
        (split names fixed entry members).mapError .part ∧
      decoder names fixed entry (.obj members) =
        (split names fixed entry members).mapError PartFault.mismatch :=
  ⟨rfl, rfl⟩

/-- `decode` and `decoder` both refuse what is no object. -/
theorem refused_of_not_object {v : Json} (h : ∀ members, v ≠ .obj members) :
    decode names fixed entry v = .error (.notAnObject v.typeName) ∧
      decoder names fixed entry v = .error (.wrongType v.found .map) := by
  cases v with
  | obj members => exact absurd rfl (h members)
  | _ => exact ⟨rfl, rfl⟩

/-- `decoder` and `decode` succeed on the same values with the same record. -/
theorem decoder_eq_ok_iff (v : Json) (r : MixedRecord α β) :
    decoder names fixed entry v = .ok r ↔ decode names fixed entry v = .ok r := by
  cases v with
  | obj members =>
    obtain ⟨hdecode, hdecoder⟩ := split_object names fixed entry members
    rw [hdecode, hdecoder, Except.mapError_eq_ok_iff, Except.mapError_eq_ok_iff]
  | _ => exact iff_of_false nofun nofun

/-- There are two ways to read a value that mixes fixed and dynamic fields: `decode` on its own, and
`decoder` as a part of another document.  They succeed on the same values with the same records.  Of
an object that cannot be read they name the same part, with the same wording, and both refuse what
is no object.  So an envelope, or a list of envelopes, can be read with such results if and only if
it can be read with any results and these can be split afterwards, and it is the same envelope
then. -/
theorem entry_points_agree [Inhabited α] :
    (∀ v r, decoder names fixed entry v = .ok r ↔ decode names fixed entry v = .ok r) ∧
    (∀ members, (∃ r, decoder names fixed entry (.obj members) = .ok r ∧
        decode names fixed entry (.obj members) = .ok r) ∨
      ∃ fault : PartFault, decoder names fixed entry (.obj members) = .error fault.mismatch ∧
        decode names fixed entry (.obj members) = .error (.part fault) ∧
        fault.mismatch.message = (SplitError.part fault).message) ∧
    (∀ v, (∀ members, v ≠ .obj members) →
      (∃ cause, decoder names fixed entry v = .error cause) ∧
        ∃ e, decode names fixed entry v = .error e) ∧
    (∀ v e, Envelope.decoder (decoder names fixed entry) v = .ok e ↔
      ∃ raw, Envelope.decoder Decoder.any v = .ok raw ∧
        decode names fixed entry raw.results = .ok e.results ∧ raw.withResults e.results = e) ∧
    ∀ v es, Envelope.listDecoder (decoder names fixed entry) v = .ok es ↔
      ∃ raws, Envelope.listDecoder Decoder.any v = .ok raws ∧
        List.Forall₂ (fun raw e => decode names fixed entry raw.results = .ok e.results ∧
          raw.withResults e.results = e) raws es := by
  -- The two ways differ in nothing once an object was split.
  have hread : Envelope.IsRead (decoder names fixed entry) = fun raw e =>
      decode names fixed entry raw.results = .ok e.results ∧ raw.withResults e.results = e := by
    funext raw e
    exact propext (and_congr_left' (decoder_eq_ok_iff ..))
  refine ⟨decoder_eq_ok_iff names fixed entry, fun members => ?_, fun v hv => ?_, fun v e => ?_,
    fun v es => ?_⟩
  · obtain ⟨hdecode, hdecoder⟩ := split_object names fixed entry members
    rw [hdecode, hdecoder]
    cases split names fixed entry members with
    | ok r => exact .inl ⟨r, rfl, rfl⟩
    | error fault => exact .inr ⟨fault, rfl, rfl, message_mismatch fault⟩
  · obtain ⟨hdecode, hdecoder⟩ := refused_of_not_object names fixed entry hv
    exact ⟨⟨_, hdecoder⟩, _, hdecode⟩
  · rw [Envelope.decoder_eq_ok_iff, hread]
  · rw [Envelope.listDecoder_eq_ok_iff, hread]

/-- An object with a text among its numbers: `decode` and `decoder` both name the entry. -/
theorem entry_points_agree_text_entry :
    (∀ members, Json.null ≠ .obj members) ∧
    (∃ cause, decoder ["cpu"] Decoder.object Decoder.word64 .null = .error cause) ∧
    ∃ cause, decoder ["cpu"] Decoder.object Decoder.word64
        (.obj [("cpu", .int 3), ("port1", .str "up")]) = .error cause ∧
      cause.message = "dynamic entry 'port1': invalid type: string \"up\", expected u64" := by
  have hnull : ∀ members, Json.null ≠ .obj members := nofun
  obtain ⟨-, hobjects, hothers, -⟩ := entry_points_agree ["cpu"] Decoder.object Decoder.word64
  refine ⟨hnull, (hothers .null hnull).1, ?_⟩
  obtain ⟨r, hdecoder, -⟩ | ⟨fault, hdecoder, hdecode, hmessage⟩ :=
    hobjects [("cpu", .int 3), ("port1", .str "up")]
  · cases hdecoder
  · refine ⟨_, hdecoder, ?_⟩
    rw [hmessage]
    cases hdecode
    decide +kernel

end MixedRecord
end FirewallProbe
