import FirewallProbe.Envelope
import FirewallProbe.Proofs.Except
import FirewallProbe.Proofs.Requests
import FirewallProbe.Proofs.Schema.Refinement

/-!
# What a device answers

`Device.replies` lists the answers of a device, and `Ensures` says what a dialogue ends with as
long as every answer is of some kind.  Together they carry an assumption on the answers that a
device gave in a run to the value of that run.  The assumption of interest is about the virtual
domains that the envelopes of an answer name; these are read in one way, whatever the results in the
envelopes are.

## Key results

- `Ensures.bind` / `Ensures.of_run`: assumptions on answers pass through composition and to runs
- `Collection.ensures_fetch`: what is fetched was read from an answer
- `refines_listDecoder` / `refines_records`: envelopes are read alike, up to their results
- `map_vdom_eq_domainsOf`: the domains of envelopes are those of the answer
-/

namespace FirewallProbe

variable {α β σ : Type}

namespace Device

variable (device : Device σ)

/-- The answers of a device to some questions that are asked one after the other from a state. -/
def replies : σ → List Endpoint → List (Endpoint × Answer)
  | _, [] => []
  | s, e :: rest => (e, (device.answer s e).1) :: replies (device.answer s e).2 rest

/-- `Device.replies` of two lists of questions: the second list is asked in the state after the
first. -/
theorem replies_append (s : σ) (xs ys : List Endpoint) :
    device.replies s (xs ++ ys) = device.replies s xs ++ device.replies (device.after s xs) ys := by
  induction xs generalizing s with
  | nil => rfl
  | cons e rest ih => simp [replies, ih]

/-- `Device.ofFunction` answers each question on its own. -/
theorem replies_ofFunction (answerTo : Endpoint → Answer) (endpoints : List Endpoint) :
    (Device.ofFunction answerTo).replies () endpoints = endpoints.map fun e => (e, answerTo e) := by
  induction endpoints with
  | nil => rfl
  | cons e rest ih =>
    rw [List.map_cons, ← ih]
    rfl

end Device

namespace Dialogue

/-- As long as every answer satisfies `given`, the dialogue ends with a value that satisfies
`ended`. -/
def Ensures (given : Endpoint → Answer → Prop) (ended : α → Prop) : Dialogue α → Prop
  | done a => ended a
  | ask endpoint next => ∀ answer, given endpoint answer → (next answer).Ensures given ended
  | note _ next => next.Ensures given ended

variable {given : Endpoint → Answer → Prop} {ended : α → Prop}

/-- `Dialogue.Ensures` passes through a `bind`. -/
theorem Ensures.bind {d : Dialogue α} {f : α → Dialogue β} {last : β → Prop}
    (hd : d.Ensures given ended) (hf : ∀ a, ended a → (f a).Ensures given last) :
    (d >>= f).Ensures given last := by
  induction d with
  | done a => exact hf a hd
  | ask endpoint next ih => exact fun answer hanswer => ih answer (hd answer hanswer)
  | note event next ih => exact ih hd

/-- `Dialogue.ofLogged` asks nothing, so its value is all there is to show. -/
theorem ensures_ofLogged {x : Logged α} (h : ended x.value) :
    (ofLogged x).Ensures given ended := by
  have hnote : (noteAll x.events).Ensures given fun _ => True := by
    induction x.events with
    | nil => trivial
    | cons e rest ih => exact ih
  exact hnote.bind fun _ _ => h

/-- A run in which every answer satisfies `given` ends with a value that satisfies `ended`. -/
theorem Ensures.of_run {d : Dialogue α} (h : d.Ensures given ended) (device : Device σ) (s : σ)
    (hgiven : ∀ r ∈ device.replies s (d.run device s).calls, given r.1 r.2) :
    ended (d.run device s).value := by
  induction d generalizing s with
  | done a => exact h
  | ask endpoint next ih =>
    obtain ⟨hfirst, hrest⟩ := List.forall_mem_cons.1 hgiven
    exact ih _ (h _ hfirst) _ hrest
  | note event next ih => exact ih h s hgiven

end Dialogue

namespace Collection

/-- As long as every answer satisfies `given`, a collection that succeeds has a value that satisfies
`ended`. -/
def Ensures (given : Endpoint → Answer → Prop) (ended : α → Prop) (c : Collection α) : Prop :=
  c.run.Ensures given fun
    | .ok a => ended a
    | .error _ => True

variable {given : Endpoint → Answer → Prop} {ended : α → Prop}

/-- `pure` ends with its value. -/
theorem ensures_pure {a : α} (h : ended a) : (pure a : Collection α).Ensures given ended := h

/-- `Collection.Ensures` passes through a `bind`. -/
theorem Ensures.bind {c : Collection α} {f : α → Collection β} {last : β → Prop}
    (hc : c.Ensures given ended) (hf : ∀ a, ended a → (f a).Ensures given last) :
    (c >>= f).Ensures given last := by
  rw [Ensures, ExceptT.run_bind]
  refine Dialogue.Ensures.bind hc fun result hresult => ?_
  cases result with
  | ok a => exact hf a hresult
  | error cause => exact trivial

/-- `Collection.Ensures` is kept for a weaker condition on the value. -/
theorem Ensures.mono {c : Collection α} {wider : α → Prop} (hc : c.Ensures given ended)
    (h : ∀ a, ended a → wider a) : c.Ensures given wider := by
  have hbind := hc.bind fun a ha => ensures_pure (h a ha)
  rwa [bind_pure] at hbind

/-- `Collection.ofLogged` ends with the value of `x`. -/
theorem ensures_ofLogged {x : Logged α} (h : ended x.value) :
    (ofLogged x).Ensures given ended := by
  have hlogged : (Dialogue.ofLogged x).Ensures given ended := Dialogue.ensures_ofLogged h
  rw [Ensures, ofLogged, ExceptT.run_lift]
  exact hlogged.bind fun _ ha => ha

/-- A value that `Collection.fetch` gives was read from some answer that satisfies `given`. -/
theorem ensures_fetch (decoder : Decoder α) (path query : String) :
    (fetch decoder path query).Ensures given fun a =>
      ∃ answer, given ⟨path, query⟩ answer ∧ readAnswer decoder path answer = .ok a := by
  rw [Ensures, run_fetch_eq]
  intro answer hanswer
  show (match readAnswer decoder path answer with | .ok a => _ | .error _ => True)
  cases hread : readAnswer decoder path answer with
  | ok a => exact ⟨answer, hanswer, hread⟩
  | error cause => exact trivial

/-- `readAnswer` succeeds if the device answered a value that `decoder` reads. -/
theorem readAnswer_eq_ok_iff {decoder : Decoder α} {path : String} {answer : Answer} {a : α} :
    readAnswer decoder path answer = .ok a ↔ ∃ v, answer = .ok v ∧ decoder v = .ok a := by
  cases answer with
  | error cause => simp [readAnswer]
  | ok v => simp [readAnswer, Except.mapError_eq_ok_iff]

end Collection

/-! ## Virtual domains -/

/-- The virtual domains that the envelopes of an answer name, in order; none if the answer is no
list of envelopes. -/
def domainsOf : Answer → List String
  | .error _ => []
  | .ok v =>
    match Envelope.listDecoder Decoder.any v with
    | .error _ => []
    | .ok envelopes => envelopes.map (·.vdom)

/-- `Envelope.record` reads the wrapping alike, whatever its results are, if one decoder of results
refines the other. -/
theorem refines_envelope [Inhabited α] [Inhabited β] {results : Decoder α} {others : Decoder β}
    {R : α → β → Prop} (hdefault : R default default)
    (h : ∀ v, Refines R (results v) (others v)) :
    (Envelope.record results).Refines (fun e e' => e.vdom = e'.vdom ∧ R e.results e'.results)
      (Envelope.record others) where
  blank := ⟨rfl, hdefault⟩
  fields :=
    .cons (Field.refines_mandatory _ h fun _ _ _ _ hxy hab => ⟨hab.1, hxy⟩) <|
      .cons (Field.refines_optional _ _ fun _ _ _ hab => ⟨rfl, hab.2⟩) <|
      .cons (Field.refines_optional _ _ fun _ _ _ hab => hab) <|
      .cons (Field.refines_optional _ _ fun _ _ _ hab => hab) <|
      .cons (Field.refines_optional _ _ fun _ _ _ hab => hab) .nil

/-- So does `Envelope.listDecoder`, envelope by envelope. -/
theorem refines_listDecoder [Inhabited α] [Inhabited β] {results : Decoder α} {others : Decoder β}
    {R : α → β → Prop} (hdefault : R default default)
    (h : ∀ v, Refines R (results v) (others v)) (v : Json) :
    Refines (List.Forall₂ fun e e' => e.vdom = e'.vdom ∧ R e.results e'.results)
      (Envelope.listDecoder results v) (Envelope.listDecoder others v) :=
  refines_list (refines_envelope hdefault h).decoder v

/-- An answer of envelopes of records is also one of envelopes of values, and `Decoder.record r`
reads each record from the value in its place. -/
theorem refines_records (r : Record Json α) (v : Json) :
    Refines (List.Forall₂ fun e e' => e.vdom = e'.vdom ∧
        List.Forall₂ (fun a w => Decoder.record r w = .ok a) e.results e'.results)
      (Envelope.listDecoder (Decoder.list (Decoder.record r)) v)
      (Envelope.listDecoder (Decoder.list Decoder.any) v) :=
  refines_listDecoder .nil (refines_list fun w _ hw => ⟨w, rfl, hw⟩) v

/-- Envelopes read from an answer name the virtual domains that `domainsOf` finds in it. -/
theorem map_vdom_eq_domainsOf [Inhabited α] {results : Decoder α} {path : String}
    {answer : Answer} {envelopes : List (Envelope α)}
    (h : Collection.readAnswer (Envelope.listDecoder results) path answer = .ok envelopes) :
    envelopes.map (·.vdom) = domainsOf answer := by
  obtain ⟨v, rfl, hread⟩ := Collection.readAnswer_eq_ok_iff.1 h
  have hany : ∀ v, Refines (fun _ _ => True) (results v) (Decoder.any v) :=
    fun v x _ => ⟨v, rfl, trivial⟩
  obtain ⟨others, hothers, hrel⟩ := refines_listDecoder trivial hany v _ hread
  rw [domainsOf, hothers]
  rw [← List.forall₂_eq_eq_eq, List.forall₂_map_left_iff, List.forall₂_map_right_iff]
  exact hrel.imp fun _ _ h => h.1

end FirewallProbe
