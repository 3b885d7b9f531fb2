import FirewallProbe.Proofs.Dialogue
import FirewallProbe.Proofs.Except

/-!
# What is collected from answers

Of an answer only the value counts for what is collected: whatever the error, a question that fails
ends the collection.  `Device.Answers` says that a device answers a question in one way in all of
its states, and `Collection.Yields` what a collection then comes to, whichever state it starts in:
some value, or none if it fails.

## Key results

- `Collection.yields_fetch`: what is fetched is the decoded answer
- `Collection.Yields.bind`: what is collected in two parts
-/

namespace FirewallProbe

variable {α β σ : Type} {device : Device σ}

/-- In every state the device answers a question with `value`, or in every state with an error if
there is none. -/
def Device.Answers (device : Device σ) (endpoint : Endpoint) (value : Option Json) : Prop :=
  ∀ s, (device.answer s endpoint).1.toOption = value

namespace Collection

/-- The collection comes to `result` in every state, or fails in every state if there is none. -/
def Yields (device : Device σ) (c : Collection α) (result : Option α) : Prop :=
  ∀ s, (c.run.run device s).value.toOption = result

theorem yields_pure (a : α) : Yields device (pure a) (some a) := fun _ => rfl

/-- A `bind` comes to what its parts come to, and fails if one of them does. -/
theorem Yields.bind {c : Collection α} {f : α → Collection β} {x : Option α} {y : α → Option β}
    (hc : Yields device c x) (hf : ∀ a, Yields device (f a) (y a)) :
    Yields device (c >>= f) (x.bind y) := by
  intro s
  rw [ExceptT.run_bind, Dialogue.run_bind, ← hc s]
  -- The rest starts in the state that the first part left, which makes no difference to it.
  cases hvalue : (c.run.run device s).value with
  | ok a =>
    simp only [hvalue]
    exact hf a _
  | error cause =>
    simp only [hvalue]
    rfl

/-- What is collected and then made into something else by `f`. -/
theorem Yields.map {c : Collection α} {x : Option α} (hc : Yields device c x) (f : α → β) :
    Yields device (c >>= fun a => pure (f a)) (x.map f) := by
  rw [Option.map_eq_bind]
  exact hc.bind fun a => yields_pure (f a)

theorem yields_ofLogged (x : Logged α) : Yields device (ofLogged x) (some x.value) := by
  intro s
  rw [ofLogged, ExceptT.run_lift, Dialogue.ofLogged, map_eq_pure_bind]
  simp [Dialogue.run_bind, Except.toOption]

/-- `fetch` comes to the answer as `decoder` reads it. -/
theorem yields_fetch (decoder : Decoder α) {path query : String} {value : Option Json}
    (h : device.Answers ⟨path, query⟩ value) :
    Yields device (fetch decoder path query) (value.bind fun v => (decoder v).toOption) := by
  intro s
  rw [run_fetch, ← h s]
  cases hanswer : (device.answer s ⟨path, query⟩).1 with
  | ok v =>
    simp only [hanswer, readAnswer]
    exact Except.toOption_mapError (decoder v) _
  | error cause =>
    simp only [hanswer, readAnswer]
    rfl

end Collection
end FirewallProbe
