import FirewallProbe.Dialogue

/-!
# All runs of a dialogue

Two ways to say something about a dialogue without a device at hand.  `Within` bounds what it asks,
notes and ends with, whatever it is answered.  `run_ofFunction_congr` compares its runs against two
devices without memory: only the answers to what it asked make a difference.

## Key results

- `Within.bind` / `Within.of_run`: bounds pass through composition and hold of every run
- `Collection.run_fetch`: one question is one call
- `run_ofFunction_congr`: devices that agree on the questions of a run have the same run
-/

namespace FirewallProbe

/-- A device without memory: `answerTo` gives the answer from the endpoint alone. -/
def Device.ofFunction (answerTo : Endpoint → Answer) : Device Unit where
  answer _ endpoint := (answerTo endpoint, ())

namespace Dialogue

variable {α β σ : Type}

/-! ## Bounds on all runs -/

/-- Whatever the answers are, only endpoints with `asked` are asked, only events with `noted` are
noted, and the end is a value with `ended`. -/
def Within (asked : Endpoint → Prop) (noted : Event → Prop) (ended : α → Prop) :
    Dialogue α → Prop
  | done a => ended a
  | ask endpoint next => asked endpoint ∧ ∀ answer, (next answer).Within asked noted ended
  | note event next => noted event ∧ next.Within asked noted ended

variable {asked : Endpoint → Prop} {noted : Event → Prop} {ended : α → Prop}

@[simp] theorem within_done (a : α) : (done a).Within asked noted ended ↔ ended a := Iff.rfl

/-- A `bind` keeps the bounds of its first part, if the rest keeps them for every value that part
can end with. -/
theorem Within.bind {d : Dialogue α} {f : α → Dialogue β} {last : β → Prop}
    (hd : d.Within asked noted ended) (hf : ∀ a, ended a → (f a).Within asked noted last) :
    (d >>= f).Within asked noted last := by
  induction d with
  | done a => exact hf a hd
  | ask endpoint next ih => exact ⟨hd.1, fun answer => ih answer (hd.2 answer)⟩
  | note event next ih => exact ⟨hd.1, ih hd.2⟩

/-- The bound on the value may be loosened. -/
theorem Within.mono {d : Dialogue α} {wider : α → Prop} (hd : d.Within asked noted ended)
    (h : ∀ a, ended a → wider a) : d.Within asked noted wider := by
  induction d with
  | done a => exact h a hd
  | ask endpoint next ih => exact ⟨hd.1, fun answer => ih answer (hd.2 answer)⟩
  | note event next ih => exact ⟨hd.1, ih hd.2⟩

/-- `noteAll` asks nothing and notes its `events`. -/
theorem within_noteAll {events : List Event} (h : ∀ e ∈ events, noted e) :
    (noteAll events).Within asked noted fun _ => True := by
  induction events with
  | nil => trivial
  | cons e rest ih =>
    exact ⟨h e List.mem_cons_self, ih fun e' he' => h e' (List.mem_cons_of_mem _ he')⟩

/-- `ofLogged` asks nothing, notes the events of `x` and ends with its value. -/
theorem within_ofLogged {x : Logged α} (hevents : ∀ e ∈ x.events, noted e)
    (hvalue : ended x.value) : (ofLogged x).Within asked noted ended :=
  (within_noteAll hevents).bind fun _ _ => hvalue

/-- The bounds of `Within` hold of every `run`, against every `device` from every state. -/
theorem Within.of_run {d : Dialogue α} (h : d.Within asked noted ended) (device : Device σ)
    (s : σ) :
    (∀ e ∈ (d.run device s).calls, asked e) ∧ (∀ e ∈ (d.run device s).events, noted e) ∧
      ended (d.run device s).value := by
  induction d generalizing s with
  | done a => exact ⟨by simp, by simp, h⟩
  | ask endpoint next ih =>
    obtain ⟨hcalls, hevents, hvalue⟩ := ih _ (h.2 _) (device.answer s endpoint).2
    exact ⟨List.forall_mem_cons.2 ⟨h.1, hcalls⟩, hevents, hvalue⟩
  | note event next ih =>
    obtain ⟨hcalls, hevents, hvalue⟩ := ih h.2 s
    exact ⟨hcalls, List.forall_mem_cons.2 ⟨h.1, hevents⟩, hvalue⟩

/-! ## Devices without memory -/

/-- Two functions that agree on every endpoint asked in the `run` with `f` have the same `run`. -/
theorem run_ofFunction_congr (d : Dialogue α) {f g : Endpoint → Answer}
    (h : ∀ e ∈ (d.run (.ofFunction f) ()).calls, f e = g e) :
    d.run (.ofFunction g) () = d.run (.ofFunction f) () := by
  induction d with
  | done a => rfl
  | ask endpoint next ih =>
    have hcalls : (∀ e ∈ endpoint :: ((next (f endpoint)).run (.ofFunction f) ()).calls,
        f e = g e) := h
    rw [List.forall_mem_cons] at hcalls
    have hrest := ih (f endpoint) hcalls.2
    -- The answers to the first question are equal, so the same dialogue goes on.
    simp only [run, Device.ofFunction, ← hcalls.1] at hrest ⊢
    rw [hrest]
  | note event next ih =>
    have hrest := ih h
    simp only [run, hrest]

end Dialogue

namespace Collection

/-- What `fetch` makes of an answer: the error of the device, that of the decoder, or the value. -/
def readAnswer {α : Type} (decoder : Decoder α) (path : String) :
    Answer → Except ProbeError α
  | .error e => .error (.fetch e)
  | .ok v => (decoder v).mapError (.decode path)

/-- `fetch` asks once, and ends with `readAnswer` of the reply. -/
theorem run_fetch {α σ : Type} (decoder : Decoder α) (path query : String) (device : Device σ)
    (s : σ) :
    (fetch decoder path query).run.run device s =
      let reply := device.answer s ⟨path, query⟩
      ⟨readAnswer decoder path reply.1, reply.2, [⟨path, query⟩], []⟩ := by
  show (Dialogue.ask _ _).run device s = _
  rw [Dialogue.run]
  cases hreply : (device.answer s ⟨path, query⟩).1 with
  | error e => simp [hreply, readAnswer]
  | ok v => simp [hreply, readAnswer]

variable {α β : Type} {asked : Endpoint → Prop} {noted : Event → Prop}

/-- The bounds of `Dialogue.Within` on a dialogue that may fail: nothing is said about the cause of
a failure. -/
def Within (asked : Endpoint → Prop) (noted : Event → Prop) (ended : α → Prop)
    (c : Collection α) : Prop :=
  c.run.Within asked noted fun
    | .ok a => ended a
    | .error _ => True

variable {ended : α → Prop}

theorem within_pure {a : α} (h : ended a) : (pure a : Collection α).Within asked noted ended := h

/-- A failure asks and notes nothing, and `ended` says nothing about it. -/
theorem within_throw (cause : ProbeError) :
    (throw cause : Collection α).Within asked noted ended := trivial

/-- What comes after `c` is bounded only for values that `c` can end with; after a failure there is
nothing to bound. -/
theorem Within.bind {c : Collection α} {f : α → Collection β} {last : β → Prop}
    (hc : c.Within asked noted ended) (hf : ∀ a, ended a → (f a).Within asked noted last) :
    (c >>= f).Within asked noted last := by
  rw [Within, ExceptT.run_bind]
  -- A failure passes by whatever would have come next.
  refine Dialogue.Within.bind hc fun result hresult => ?_
  cases result with
  | ok a => exact hf a hresult
  | error cause => exact trivial

theorem Within.mono {c : Collection α} {wider : α → Prop} (hc : c.Within asked noted ended)
    (h : ∀ a, ended a → wider a) : c.Within asked noted wider := by
  refine Dialogue.Within.mono hc fun result hresult => ?_
  cases result with
  | ok a => exact h a hresult
  | error cause => exact trivial

/-- `fetch` asks for its one endpoint. -/
theorem within_fetch (decoder : Decoder α) {path query : String} (h : asked ⟨path, query⟩) :
    (fetch decoder path query).Within asked noted fun _ => True := by
  refine ⟨h, fun answer => ?_⟩
  cases answer with
  | error e => exact trivial
  | ok v =>
    simp only [Dialogue.within_done]
    split <;> trivial

/-- A record with events keeps the bounds that its events and its value keep. -/
theorem within_ofLogged {x : Logged α} (hevents : ∀ e ∈ x.events, noted e)
    (hvalue : ended x.value) : (ofLogged x).Within asked noted ended := by
  have hlogged : (Dialogue.ofLogged x).Within asked noted ended :=
    Dialogue.within_ofLogged hevents hvalue
  rw [Within, ofLogged, ExceptT.run_lift]
  exact hlogged.bind fun _ h => h

end Collection
end FirewallProbe
