import Mathlib.Data.List.Forall2
import Mathlib.Data.Option.Basic
import FirewallProbe.Proofs.Dict
import FirewallProbe.Schema.Decoder

/-!
# Decoders that read more

A decoder refines another one if that one reads whatever it reads, to a related value.  Records
whose fields refine each other do so as a whole, from objects and from lists alike.

## Key results

- `Refines.bind` / `refines_mapM`: refinement passes through composition
- `refines_list` / `refines_dict`: and through lists and dictionaries
- `Record.Refines.decoder`: records are refined field by field
-/

namespace FirewallProbe

variable {ε α β γ δ ι : Type}

/-- Where `x` has a value, so has `y`, and the values are related by `R`. -/
def Refines (R : α → β → Prop) (x : Except ε α) (y : Except ε β) : Prop :=
  ∀ a, x = .ok a → ∃ b, y = .ok b ∧ R a b

section Refines

variable {R : α → β → Prop}

theorem refines_ok {a : α} {b : β} (h : R a b) : Refines (ε := ε) R (.ok a) (.ok b) := by
  intro a' ha
  cases ha
  exact ⟨b, rfl, h⟩

/-- A failure is refined by anything. -/
theorem refines_error (cause : ε) (y : Except ε β) : Refines R (.error cause) y := by
  intro a ha
  cases ha

theorem refines_rfl (x : Except ε α) : Refines Eq x x := fun a ha => ⟨a, ha, rfl⟩

/-- A `bind` is refined part by part. -/
theorem Refines.bind {S : γ → ι → Prop} {x : Except ε α} {y : Except ε β}
    {f : α → Except ε γ} {g : β → Except ε ι} (hxy : Refines R x y)
    (hfg : ∀ a b, R a b → Refines S (f a) (g b)) : Refines S (x >>= f) (y >>= g) := by
  cases x with
  | error cause => exact refines_error cause _
  | ok a =>
    obtain ⟨b, rfl, hab⟩ := hxy a rfl
    exact hfg a b hab

/-- `mapM` is refined item by item. -/
theorem refines_mapM {f : δ → Except ε α} {g : δ → Except ε β} (h : ∀ d, Refines R (f d) (g d))
    (items : List δ) : Refines (List.Forall₂ R) (items.mapM f) (items.mapM g) := by
  induction items with
  | nil => exact refines_ok .nil
  | cons d rest ih =>
    rw [List.mapM_cons, List.mapM_cons]
    exact (h d).bind fun a b hab => ih.bind fun as bs habs => refines_ok (.cons hab habs)

end Refines

/-! ## Lists and dictionaries -/

section

variable {R : α → β → Prop} {d : Decoder α} {d' : Decoder β}

/-- `Decoder.list` is refined if its decoder of items is. -/
theorem refines_list (h : ∀ v, Refines R (d v) (d' v)) (v : Json) :
    Refines (List.Forall₂ R) (Decoder.list d v) (Decoder.list d' v) := by
  cases v with
  | arr items => exact refines_mapM h items
  | _ => exact refines_error _ _

/-- `Decoder.dict` is refined if its decoder of values is. -/
theorem refines_dict (h : ∀ v, Refines R (d v) (d' v)) (v : Json) :
    Refines (Dict.Rel R) (Decoder.dict d v) (Decoder.dict d' v) := by
  cases v with
  | obj members =>
    have hmember : ∀ member : String × Json, Refines (fun a b => a.1 = b.1 ∧ R a.2 b.2)
        (do return (member.1, ← d member.2)) (do return (member.1, ← d' member.2)) :=
      fun member => (h member.2).bind fun a b hab => refines_ok ⟨rfl, hab⟩
    exact (refines_mapM hmember members).bind fun entries others hentries =>
      refines_ok (Dict.rel_ofList hentries)
  | _ => exact refines_error _ _

end

/-! ## Records -/

/-- Related records are still related after the same value was read into `f` of the one and `g` of
the other. -/
structure Field.Refines (R : α → β → Prop) (f : Field δ α) (g : Field δ β) : Prop where
  name : f.name = g.name
  required : f.required = g.required
  set : ∀ v a b, R a b → FirewallProbe.Refines R (f.set v a) (g.set v b)

/-- Records with the same fields, each of which is refined. -/
structure Record.Refines (R : α → β → Prop) (r : Record δ α) (q : Record δ β) : Prop where
  blank : R r.blank q.blank
  fields : List.Forall₂ (Field.Refines R) r.fields q.fields

variable {R : α → β → Prop}

/-- A value that is read in the same way and put in place alike. -/
theorem Field.refines_optional (name : String) (read : δ → Except Mismatch γ) {put : γ → α → α}
    {put' : γ → β → β} (h : ∀ x a b, R a b → R (put x a) (put' x b)) :
    Field.Refines R (.optional name read put) (.optional name read put') where
  name := rfl
  required := rfl
  set v a b hab := (refines_rfl (read v)).bind fun x _ heq => heq ▸ refines_ok (h x a b hab)

/-- A value that `read'` reads as `read` does up to `S`, and that is put in place alike. -/
theorem Field.refines_mandatory (name : String) {read : δ → Except Mismatch γ}
    {read' : δ → Except Mismatch ι} {S : γ → ι → Prop} {put : γ → α → α} {put' : ι → β → β}
    (hread : ∀ v, FirewallProbe.Refines S (read v) (read' v))
    (h : ∀ x y a b, S x y → R a b → R (put x a) (put' y b)) :
    Field.Refines R (.mandatory name read put) (.mandatory name read' put') where
  name := rfl
  required := rfl
  set v a b hab := (hread v).bind fun x y hxy => refines_ok (h x y a b hxy hab)

/-- `find?` chooses related members together, or passes over them together. -/
theorem rel_find? {P : γ → ι → Prop} {as : List γ} {bs : List ι} (h : List.Forall₂ P as bs)
    {p : γ → Bool} {q : ι → Bool} (hpq : ∀ a b, P a b → p a = q b) :
    Option.Rel P (as.find? p) (bs.find? q) := by
  induction h with
  | nil => exact .none
  | @cons a b as bs hab _ ih =>
    rw [List.find?_cons, List.find?_cons, ← hpq a b hab]
    cases p a with
    | true => exact .some hab
    | false => exact ih

namespace Record.Refines

variable {r : Record δ α} {q : Record δ β}

/-- `readEntries` keeps records related, and sees the same names. -/
theorem readEntries (h : r.Refines R q) (check : δ → Except Mismatch Unit)
    (entries : List (String × δ)) (seen : List String) {a : α} {b : β} (hab : R a b) :
    FirewallProbe.Refines (fun x y => x.1 = y.1 ∧ R x.2 y.2)
      (r.readEntries check entries seen a) (q.readEntries check entries seen b) := by
  induction entries generalizing seen a b with
  | nil => exact refines_ok ⟨rfl, hab⟩
  | cons entry rest ih =>
    obtain ⟨name, v⟩ := entry
    have hfield : Option.Rel (Field.Refines R) (r.field? name) (q.field? name) :=
      rel_find? h.fields fun f g hfg => by rw [hfg.name]
    rw [Record.readEntries, Record.readEntries]
    generalize r.field? name = f?, q.field? name = g? at hfield
    cases hfield with
    | none => exact (refines_rfl (check v)).bind fun _ _ _ => ih seen hab
    | some hfg =>
      -- A name that was seen is refused by both records.
      dsimp only
      split
      · exact refines_error _ _
      · exact (hfg.set v a b hab).bind fun a' b' hab' => ih (name :: seen) hab'

/-- `complete` asks both records for the same names. -/
theorem complete (h : r.Refines R q) (seen : List String) {a : α} {b : β} (hab : R a b) :
    FirewallProbe.Refines R (r.complete seen a) (q.complete seen b) := by
  have hmissing : Option.Rel (Field.Refines R) (r.firstMissing? seen) (q.firstMissing? seen) :=
    rel_find? h.fields fun f g hfg => by rw [hfg.name, hfg.required]
  rw [Record.complete, Record.complete]
  generalize r.firstMissing? seen = f?, q.firstMissing? seen = g? at hmissing
  cases hmissing with
  | none => exact refines_ok hab
  | some _ => exact refines_error _ _

/-- `ofEntries` reads related records from the same entries. -/
theorem ofEntries (h : r.Refines R q) (entries : List (String × δ)) :
    FirewallProbe.Refines R (r.ofEntries entries) (q.ofEntries entries) := by
  refine (h.readEntries (fun _ => .ok ()) entries [] h.blank).bind fun x y hxy => ?_
  dsimp only
  rw [hxy.1]
  exact h.complete y.1 hxy.2

/-- `readItems` keeps records related, and leaves the same items over. -/
private theorem readItems (r : Record δ α) (q : Record δ β) (count : Nat)
    {fs : List (Field δ α)} {gs : List (Field δ β)} (hfields : List.Forall₂ (Field.Refines R) fs gs)
    (items : List δ) {a : α} {b : β} (hab : R a b) :
    FirewallProbe.Refines (fun x y => x.1 = y.1 ∧ R x.2 y.2)
      (r.readItems count fs items a) (q.readItems count gs items b) := by
  induction hfields generalizing count items a b with
  | nil => exact refines_ok ⟨rfl, hab⟩
  | @cons f g fs gs hfg _ ih =>
    cases items with
    | nil =>
      rw [Record.readItems, Record.readItems, hfg.required]
      split
      · exact refines_error _ _
      · exact ih count [] hab
    | cons v items =>
      rw [Record.readItems, Record.readItems]
      exact (hfg.set v a b hab).bind fun a' b' hab' => ih (count + 1) items hab'

/-- `ofItems` reads related records from the same items. -/
theorem ofItems (h : r.Refines R q) (surplus : Bool) (items : List δ) :
    FirewallProbe.Refines R (r.ofItems surplus items) (q.ofItems surplus items) := by
  refine (readItems r q 0 h.fields items h.blank).bind fun x y hxy => ?_
  dsimp only
  rw [hxy.1]
  split
  · exact refines_ok hxy.2
  · exact refines_error _ _

/-- `Decoder.record` is refined field by field. -/
theorem decoder {r : Record Json α} {q : Record Json β} (h : r.Refines R q) (v : Json) :
    FirewallProbe.Refines R (Decoder.record r v) (Decoder.record q v) := by
  cases v with
  | obj members => exact h.ofEntries members
  | arr items => exact h.ofItems false items
  | _ => exact refines_error _ _

end Record.Refines
end FirewallProbe
