import FirewallProbe.Proofs.Answers
import FirewallProbe.Routine

/-!
# What a collection gives

A collection that succeeds gives a value and leaves the device in some state, which depends on the
questions it asked.  `Gives` is that relation, and each way of making a collection has an
equivalence for it, so that a routine that succeeds is taken apart into the answers that it read.

## Key results

- `Collection.gives_bind_iff`: two parts give one after the other
- `Collection.gives_fetch_iff`: what is fetched was read from the next answer
- `Routine.value_collect_ofEndpoint` / `value_collect_ofEndpointLogged`: what a routine that asks
  one endpoint comes to
-/

namespace FirewallProbe

variable {α β σ : Type}

/-- `decoder` reads each of the answers to `endpoints`, asked one after the other from `s`, as one
of `values`. -/
def Device.Reads (device : Device σ) (decoder : Decoder α) (s : σ) (endpoints : List Endpoint)
    (values : List α) : Prop :=
  List.Forall₂ (fun reply a => Collection.readAnswer decoder reply.1.path reply.2 = .ok a)
    (device.replies s endpoints) values

/-- `Device.replies` has one answer for each question. -/
theorem Device.length_replies (device : Device σ) (s : σ) (endpoints : List Endpoint) :
    (device.replies s endpoints).length = endpoints.length := by
  induction endpoints generalizing s with
  | nil => rfl
  | cons e rest ih => exact congrArg (· + 1) (ih _)

/-- `Device.Reads` has one value for each question. -/
theorem Device.Reads.length_eq {device : Device σ} {decoder : Decoder α} {s : σ}
    {endpoints : List Endpoint} {values : List α} (h : device.Reads decoder s endpoints values) :
    values.length = endpoints.length :=
  (List.Forall₂.length_eq h).symm.trans (device.length_replies s endpoints)

/-- If `d` refines `d'`, what `d` reads of some answers is related to what `d'` reads of them. -/
theorem Device.Reads.refine {device : Device σ} {d : Decoder α} {d' : Decoder β}
    {R : α → β → Prop} (h : ∀ v, Refines R (d v) (d' v)) {s : σ} {endpoints : List Endpoint}
    {values : List α} (hread : device.Reads d s endpoints values) :
    ∃ others, device.Reads d' s endpoints others ∧ List.Forall₂ R values others := by
  unfold Device.Reads at hread ⊢
  generalize device.replies s endpoints = replies at hread ⊢
  induction hread with
  | nil => exact ⟨[], .nil, .nil⟩
  | cons hfirst _ ih =>
    obtain ⟨v, hanswer, hv⟩ := Collection.readAnswer_eq_ok_iff.1 hfirst
    obtain ⟨b, hb, hab⟩ := h v _ hv
    obtain ⟨others, hothers, hrel⟩ := ih
    exact ⟨b :: others, .cons (Collection.readAnswer_eq_ok_iff.2 ⟨v, hanswer, hb⟩) hothers,
      .cons hab hrel⟩

namespace Collection

/-- A collection that starts in the state `s` of a device gives the value `a` and leaves the device
in `s'`. -/
def Gives (device : Device σ) (s : σ) (c : Collection α) (a : α) (s' : σ) : Prop :=
  (c.run.run device s).value = .ok a ∧ (c.run.run device s).state = s'

variable {device : Device σ} {s s' : σ}

/-- A collection that succeeds leaves the device in some state. -/
theorem exists_gives_iff {c : Collection α} {a : α} :
    (∃ s', Gives device s c a s') ↔ (c.run.run device s).value = .ok a :=
  ⟨fun ⟨_, h, _⟩ => h, fun h => ⟨_, h, rfl⟩⟩

/-- `pure` gives its value and asks nothing. -/
theorem gives_pure_iff {a b : α} : Gives device s (pure a) b s' ↔ b = a ∧ s' = s := by
  simp [Gives, eq_comm]

/-- A `bind` gives what its second part gives in the state in which the first leaves the device. -/
theorem gives_bind_iff {c : Collection α} {f : α → Collection β} {b : β} :
    Gives device s (c >>= f) b s' ↔ ∃ a t, Gives device s c a t ∧ Gives device t (f a) b s' := by
  rw [Gives, ExceptT.run_bind, Dialogue.run_bind]
  cases hvalue : (c.run.run device s).value with
  | ok a =>
    simp only [hvalue, Gives, Except.ok.injEq]
    constructor
    · rintro ⟨hb, hs'⟩
      exact ⟨a, _, ⟨rfl, rfl⟩, hb, hs'⟩
    · rintro ⟨_, _, ⟨rfl, rfl⟩, hb, hs'⟩
      exact ⟨hb, hs'⟩
  | error cause => simp [hvalue, Gives]

/-- `Collection.ofLogged` gives the value of `x` and asks nothing. -/
theorem gives_ofLogged_iff {x : Logged α} {a : α} :
    Gives device s (ofLogged x) a s' ↔ a = x.value ∧ s' = s := by
  rw [Gives, ofLogged, ExceptT.run_lift, Dialogue.ofLogged, map_eq_pure_bind]
  simp [Dialogue.run_bind, eq_comm]

/-- `Collection.fetch` gives what is read of the next answer. -/
theorem gives_fetch_iff {decoder : Decoder α} {path query : String} {a : α} :
    Gives device s (fetch decoder path query) a s' ↔
      readAnswer decoder path (device.answer s ⟨path, query⟩).1 = .ok a ∧
        s' = (device.answer s ⟨path, query⟩).2 := by
  rw [Gives, run_fetch, eq_comm (a := s')]

end Collection

namespace Routine

variable (device : Device σ) (ctx : ScrapeContext) (s : σ)

/-- `Routine.ofEndpoint` fails as reading the answer does, or makes samples of what was read. -/
theorem value_collect_ofEndpoint (name : String) (since : Option Firmware) (decoder : Decoder α)
    (path query : String) (samples : α → List Sample) :
    (((ofEndpoint name since decoder path query samples).collect ctx).run.run device s).value =
      (Collection.readAnswer decoder path (device.answer s ⟨path, query⟩).1).map samples := by
  simp only [ofEndpoint, ExceptT.run_bind, Dialogue.run_bind, Collection.run_fetch]
  cases Collection.readAnswer decoder path (device.answer s ⟨path, query⟩).1 <;> rfl

/-- So does `Routine.ofEndpointLogged`: the events that `samples` notes do not change what is
collected. -/
theorem value_collect_ofEndpointLogged (name : String) (since : Option Firmware)
    (decoder : Decoder α) (path query : String) (samples : α → Logged (List Sample)) :
    (((ofEndpointLogged name since decoder path query samples).collect ctx).run.run device
        s).value =
      (Collection.readAnswer decoder path (device.answer s ⟨path, query⟩).1).map
        fun a => (samples a).value := by
  simp only [ofEndpointLogged, ExceptT.run_bind, Dialogue.run_bind, Collection.run_fetch]
  cases Collection.readAnswer decoder path (device.answer s ⟨path, query⟩).1 with
  | error cause => rfl
  | ok a =>
    simp [Collection.ofLogged, ExceptT.run_lift, Dialogue.ofLogged, map_eq_pure_bind,
      Dialogue.run_bind, Except.map]

end Routine
end FirewallProbe
