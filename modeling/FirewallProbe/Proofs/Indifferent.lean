import FirewallProbe.Proofs.Except
import FirewallProbe.Proofs.Requests

/-!
# Dialogues that do not tell answers apart

A dialogue may be indifferent to some differences between answers: whichever of two such answers it
is given, it goes on in one way.  Against two devices that differ in nothing else it then has one
run, with the same calls, events and value.

## Key results

- `Indifferent.bind` / `Indifferent.run_eq`: indifference passes through composition and to runs
- `Collection.indifferent_fetch_bind`: what is fetched may differ if what follows is the same
-/

namespace FirewallProbe

variable {α β σ : Type}

/-- A difference between two answers to a question. -/
abbrev Difference := Endpoint → Answer → Answer → Prop

/-- Devices with the same states whose answers show the difference `diff`. -/
def Device.Differ (diff : Difference) (device device' : Device σ) : Prop :=
  ∀ s e, diff e (device.answer s e).1 (device'.answer s e).1 ∧
    (device.answer s e).2 = (device'.answer s e).2

namespace Dialogue

/-- A dialogue goes on in one way, whichever of two answers that differ by `diff` it is given. -/
def Indifferent (diff : Difference) : Dialogue α → Prop
  | done _ => True
  | ask endpoint next => (∀ answer answer', diff endpoint answer answer' →
      next answer = next answer') ∧ ∀ answer, (next answer).Indifferent diff
  | note _ next => next.Indifferent diff

variable {diff : Difference}

/-- A `bind` of indifferent parts is indifferent. -/
theorem Indifferent.bind {d : Dialogue α} {f : α → Dialogue β} (hd : d.Indifferent diff)
    (hf : ∀ a, (f a).Indifferent diff) : (d >>= f).Indifferent diff := by
  induction d with
  | done a => exact hf a
  | ask endpoint next ih =>
    exact ⟨fun x y hxy => congrArg (· >>= f) (hd.1 x y hxy), fun x => ih x (hd.2 x)⟩
  | note event next ih => exact ih hd

/-- `noteAll` asks nothing, so that no difference shows. -/
theorem indifferent_noteAll (events : List Event) : (noteAll events).Indifferent diff := by
  induction events with
  | nil => trivial
  | cons e rest ih => exact ih

theorem indifferent_ofLogged (x : Logged α) : (ofLogged x).Indifferent diff :=
  (indifferent_noteAll x.events).bind fun _ => trivial

/-- Devices that differ by `diff` and in nothing else have the same `run`. -/
theorem Indifferent.run_eq {d : Dialogue α} (hd : d.Indifferent diff) {device device' : Device σ}
    (h : device.Differ diff device') (s : σ) : d.run device s = d.run device' s := by
  induction d generalizing s with
  | done a => rfl
  | ask endpoint next ih =>
    obtain ⟨hanswer, hstate⟩ := h s endpoint
    -- Both answers lead to one dialogue, which goes on in one state.
    rw [run_ask, run_ask]
    dsimp only
    rw [hd.1 _ _ hanswer, hstate, ih _ (hd.2 _)]
  | note event next ih =>
    rw [run, run, ih hd s]

end Dialogue

namespace Collection

/-- A collection goes on in one way, whichever of two answers that differ by `diff` it is given. -/
def Indifferent (diff : Difference) (c : Collection α) : Prop := c.run.Indifferent diff

variable {diff : Difference}

theorem indifferent_pure (a : α) : Indifferent diff (pure a) := trivial

theorem Indifferent.bind {c : Collection α} {f : α → Collection β} (hc : Indifferent diff c)
    (hf : ∀ a, Indifferent diff (f a)) : Indifferent diff (c >>= f) := by
  rw [Indifferent, ExceptT.run_bind]
  refine Dialogue.Indifferent.bind hc fun result => ?_
  cases result with
  | ok a => exact hf a
  | error cause => trivial

theorem indifferent_ofLogged (x : Logged α) : Indifferent diff (ofLogged x) := by
  rw [Indifferent, ofLogged, ExceptT.run_lift]
  exact (Dialogue.indifferent_ofLogged x).bind fun _ => trivial

/-- What is fetched may differ, by `T`, if `f` goes on in one way with it. -/
theorem indifferent_fetch_bind {decoder : Decoder α} {path query : String} {T : α → α → Prop}
    {f : α → Collection β}
    (hread : ∀ answer answer', diff ⟨path, query⟩ answer answer' →
      Except.Rel T (readAnswer decoder path answer) (readAnswer decoder path answer'))
    (hsame : ∀ a a', T a a' → f a = f a') (hf : ∀ a, Indifferent diff (f a)) :
    Indifferent diff (fetch decoder path query >>= f) := by
  rw [Indifferent, ExceptT.run_bind, run_fetch_eq]
  refine ⟨fun answer answer' hdiff => ?_, fun answer => ?_⟩
  · -- One error ends both, and with related values the rest is the same.
    have hresult := hread answer answer' hdiff
    simp only
    generalize readAnswer decoder path answer = x, readAnswer decoder path answer' = x' at hresult ⊢
    cases hresult with
    | ok ha => exact congrArg ExceptT.run (hsame _ _ ha)
    | error cause => rfl
  · simp only
    cases readAnswer decoder path answer with
    | ok a => exact hf a
    | error cause => trivial

end Collection
end FirewallProbe
