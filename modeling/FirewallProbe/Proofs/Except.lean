import Mathlib.Data.List.Forall2

/-!
# Computations that may fail

What a computation that is put together from parts succeeds with, and what is left of it when the
error does not count.

## Key results

- `Except.bind_eq_ok_iff` / `Except.bind_eq_error_iff`: how two parts end one after the other
- `Except.mapM_eq_ok_iff` / `Except.mapM_eq_error_iff`: how a list of computations ends
- `Except.toOption_bind` / `Except.toOption_mapError`: the value of a computation, without its error
- `Except.Rel.bind` / `Except.Rel.mapM`: computations that end alike, put together
-/

namespace Except

variable {ε ε' α β : Type}

/-- A `bind` succeeds if its first part does and then the rest. -/
theorem bind_eq_ok_iff {x : Except ε α} {f : α → Except ε β} {b : β} :
    (x >>= f) = .ok b ↔ ∃ a, x = .ok a ∧ f a = .ok b := by
  cases x <;> simp [Bind.bind, Except.bind]

/-- A `bind` fails if its first part does, or the rest after it. -/
theorem bind_eq_error_iff {x : Except ε α} {f : α → Except ε β} {e : ε} :
    (x >>= f) = .error e ↔ x = .error e ∨ ∃ a, x = .ok a ∧ f a = .error e := by
  cases x <;> simp [Bind.bind, Except.bind]

/-- `mapM` succeeds if `f` does on every item, with the values that `f` has on them. -/
theorem mapM_eq_ok_iff {f : α → Except ε β} {items : List α} {values : List β} :
    items.mapM f = .ok values ↔ List.Forall₂ (fun i x => f i = .ok x) items values := by
  induction items generalizing values with
  | nil => simp [eq_comm, pure, Except.pure]
  | cons i rest ih =>
    rw [List.mapM_cons, bind_eq_ok_iff, List.forall₂_cons_left_iff]
    simp only [bind_eq_ok_iff, ih, pure, Except.pure, Except.ok.injEq]
    constructor
    · rintro ⟨x, hx, xs, hxs, rfl⟩
      exact ⟨x, xs, hx, hxs, rfl⟩
    · rintro ⟨x, xs, hx, hxs, rfl⟩
      exact ⟨x, hx, xs, hxs, rfl⟩

/-- `mapM` fails as `f` does on the first item on which it fails. -/
theorem mapM_eq_error_iff {f : α → Except ε β} {items : List α} {cause : ε} :
    items.mapM f = .error cause ↔
      ∃ front i back, items = front ++ i :: back ∧ (∀ x ∈ front, ∃ b, f x = .ok b) ∧
        f i = .error cause := by
  induction items with
  | nil => simp [pure, Except.pure]
  | cons i rest ih =>
    have htail : ∀ b, (rest.mapM f >>= fun bs => (.ok (b :: bs) : Except ε (List β))) =
        .error cause ↔ rest.mapM f = .error cause := by
      simp [bind_eq_error_iff]
    rw [List.mapM_cons, bind_eq_error_iff]
    constructor
    -- The first item fails, or the rest does after it; a failure in the rest has the item in front.
    · rintro (hi | ⟨b, hb, hrest⟩)
      · exact ⟨[], i, rest, rfl, by simp, hi⟩
      · obtain ⟨front, j, back, rfl, hfront, hj⟩ := ih.1 ((htail b).1 hrest)
        exact ⟨i :: front, j, back, rfl, List.forall_mem_cons.2 ⟨⟨b, hb⟩, hfront⟩, hj⟩
    · rintro ⟨front, j, back, hsplit, hfront, hj⟩
      cases front with
      | nil =>
        obtain ⟨rfl, rfl⟩ := List.cons.inj hsplit
        exact .inl hj
      | cons x front =>
        obtain ⟨rfl, rfl⟩ := List.cons.inj hsplit
        obtain ⟨⟨b, hb⟩, hfront⟩ := List.forall_mem_cons.1 hfront
        exact .inr ⟨b, hb, (htail b).2 (ih.2 ⟨front, j, back, rfl, hfront, hj⟩)⟩

/-- `Except.map` succeeds where its argument does. -/
theorem map_eq_ok_iff {x : Except ε α} {f : α → β} {b : β} :
    x.map f = .ok b ↔ ∃ a, x = .ok a ∧ f a = b := by
  cases x <;> simp [Except.map]

/-- `Except.map` fails as its argument does. -/
theorem map_eq_error_iff {x : Except ε α} {f : α → β} {e : ε} :
    x.map f = .error e ↔ x = .error e := by
  cases x <;> simp [Except.map]

/-- `Except.mapError` keeps successes as they are. -/
theorem mapError_eq_ok_iff {x : Except ε α} {f : ε → ε'} {a : α} :
    x.mapError f = .ok a ↔ x = .ok a := by
  cases x <;> simp [Except.mapError]

/-- `Except.mapError` fails where its argument does, with the renamed error. -/
theorem mapError_eq_error_iff {x : Except ε α} {f : ε → ε'} {e' : ε'} :
    x.mapError f = .error e' ↔ ∃ e, x = .error e ∧ f e = e' := by
  cases x <;> simp [Except.mapError]

/-- `Except.mapError` renames an error in whatever part of a `bind` it occurs. -/
theorem mapError_bind (x : Except ε α) (f : α → Except ε β) (g : ε → ε') :
    (x >>= f).mapError g = x.mapError g >>= fun a => (f a).mapError g := by
  cases x <;> rfl

/-- `Except.toOption` keeps the value of a success. -/
theorem toOption_eq_some_iff {x : Except ε α} {a : α} : x.toOption = some a ↔ x = .ok a := by
  cases x <;> simp [Except.toOption]

/-- A computation whose value is mapped to `b` succeeds with some `a` that `f` maps to `b`. -/
theorem map_toOption_eq_some_iff {x : Except ε α} {f : α → β} {b : β} :
    x.toOption.map f = some b ↔ ∃ a, x = .ok a ∧ f a = b := by
  cases x <;> simp [Except.toOption]

/-- `Except.toOption` passes through a `bind`. -/
theorem toOption_bind (x : Except ε α) (f : α → Except ε β) :
    (x >>= f).toOption = x.toOption.bind fun a => (f a).toOption := by
  cases x <;> rfl

/-- `Except.toOption` does not see which error there was. -/
theorem toOption_mapError (x : Except ε α) (f : ε → ε') : (x.mapError f).toOption = x.toOption := by
  cases x <;> rfl

/-! ## Two computations that end alike -/

/-- Both computations fail with one error, or both succeed with values related by `R`. -/
inductive Rel (R : α → β → Prop) : Except ε α → Except ε β → Prop
  | ok {a : α} {b : β} : R a b → Rel R (.ok a) (.ok b)
  | error (e : ε) : Rel R (.error e) (.error e)

/-- `Except.Rel Eq` is equality. -/
theorem rel_eq_iff {x y : Except ε α} : Rel Eq x y ↔ x = y := by
  constructor
  · intro h
    cases h with
    | ok h => rw [h]
    | error e => rfl
  · rintro rfl
    cases x with
    | ok a => exact .ok rfl
    | error e => exact .error e

namespace Rel

variable {γ δ ι κ : Type} {R : α → β → Prop} {S : γ → δ → Prop}

/-- `Except.Rel R` is reflexive if `R` is. -/
theorem refl {R : α → α → Prop} (h : ∀ a, R a a) (x : Except ε α) : Rel R x x := by
  cases x with
  | ok a => exact .ok (h a)
  | error e => exact .error e

/-- `Except.Rel` passes through a `bind`, first the parts and then the rests. -/
theorem bind {x : Except ε α} {y : Except ε β} {f : α → Except ε γ} {g : β → Except ε δ}
    (h : Rel R x y) (hfg : ∀ a b, R a b → Rel S (f a) (g b)) : Rel S (x >>= f) (y >>= g) := by
  cases h with
  | ok hab => exact hfg _ _ hab
  | error e => exact .error e

/-- `Except.Rel` is kept when errors are renamed on both sides. -/
theorem mapError {x : Except ε α} {y : Except ε β} (h : Rel R x y) (f : ε → ε') :
    Rel R (x.mapError f) (y.mapError f) := by
  cases h with
  | ok hab => exact .ok hab
  | error e => exact .error (f e)

/-- `Except.Rel` passes through `mapM`, item by item up to the first that fails. -/
theorem mapM {P : ι → κ → Prop} {f : ι → Except ε α} {g : κ → Except ε β} {items : List ι}
    {others : List κ} (h : List.Forall₂ P items others) (hfg : ∀ i j, P i j → Rel R (f i) (g j)) :
    Rel (List.Forall₂ R) (items.mapM f) (others.mapM g) := by
  induction h with
  | nil => exact .ok .nil
  | cons hij _ ih =>
    rw [List.mapM_cons, List.mapM_cons]
    exact (hfg _ _ hij).bind fun a b hab => ih.bind fun as bs habs => .ok (.cons hab habs)

end Rel
end Except
