import FirewallProbe.Proofs.Dialogue

/-!
# Lists of requests

A routine goes through a list of requests.  Each is made once the one before it was answered in a
way that can be read; the first that fails ends the routine, and its error is the error of the
routine.  `Follows` says this of a dialogue, without a device at hand, and `Follows.calls_run` says
what it comes to against a device: the questions are a prefix of the list, cut after the first that
failed.

## Key results

- `state_run`: the state of a device depends on the questions alone
- `Collection.follows_fetch` / `Follows.bind`: how lists of requests are put together
- `Follows.calls_run` / `Follows.value_run`: the run of a dialogue that follows a list of requests
-/

namespace List

variable {α : Type u}

/-- The shortest prefix of `l` that ends with a member with `p`, or all of `l` if it has none. -/
def throughFirst (p : α → Bool) (l : List α) : List α := l.take (l.findIdx p + 1)

@[simp] theorem throughFirst_nil (p : α → Bool) : throughFirst p [] = [] := rfl

theorem throughFirst_cons_of_pos {p : α → Bool} {a : α} (h : p a = true) (rest : List α) :
    throughFirst p (a :: rest) = [a] := by
  simp [throughFirst, findIdx_cons, h]

theorem throughFirst_cons_of_neg {p : α → Bool} {a : α} (h : p a = false) (rest : List α) :
    throughFirst p (a :: rest) = a :: throughFirst p rest := by
  simp [throughFirst, findIdx_cons, h]

theorem throughFirst_prefix (p : α → Bool) (l : List α) : throughFirst p l <+: l :=
  take_prefix _ l

end List

namespace FirewallProbe

/-! ## Requests and answers -/

/-- A question with the check whether an answer to it can be read. -/
structure Request where
  endpoint : Endpoint
  check : Json → Except Mismatch Unit

/-- A question whose answer is read by `decoder`. -/
def Request.of {α : Type} (decoder : Decoder α) (path query : String) : Request where
  endpoint := ⟨path, query⟩
  check v := (decoder v).map fun _ => ()

/-- The error that an answer to a request comes to: the device gave none, or it cannot be read. -/
def Request.failure? (r : Request) : Answer → Option ProbeError
  | .error cause => some (.fetch cause)
  | .ok v =>
    match r.check v with
    | .error cause => some (.decode r.endpoint.path cause)
    | .ok () => none

/-- A request with its answer. -/
structure Exchange where
  request : Request
  answer : Answer

namespace Exchange

/-- The question that was asked. -/
def endpoint (x : Exchange) : Endpoint := x.request.endpoint

/-- The error that the answer comes to. -/
def failure? (x : Exchange) : Option ProbeError := x.request.failure? x.answer

/-- Whether the request failed. -/
def failed (x : Exchange) : Bool := x.failure?.isSome

end Exchange

namespace Device

variable {σ : Type} (device : Device σ)

/-- The state of a device that is in `s`, after some questions. -/
def after (s : σ) (endpoints : List Endpoint) : σ :=
  endpoints.foldl (fun s e => (device.answer s e).2) s

@[simp] theorem after_nil (s : σ) : device.after s [] = s := rfl

@[simp] theorem after_cons (s : σ) (e : Endpoint) (rest : List Endpoint) :
    device.after s (e :: rest) = device.after (device.answer s e).2 rest := rfl

theorem after_append (s : σ) (xs ys : List Endpoint) :
    device.after s (xs ++ ys) = device.after (device.after s xs) ys := by
  simp [after]

/-- What a device answers when all requests are made one after the other. -/
def exchanges : List Request → σ → List Exchange
  | [], _ => []
  | r :: rest, s =>
    let reply := device.answer s r.endpoint
    ⟨r, reply.1⟩ :: exchanges rest reply.2

/-- What is made of the requests when the first that fails is the last. -/
def exchangesUntilFailure (requests : List Request) (s : σ) : List Exchange :=
  (device.exchanges requests s).throughFirst Exchange.failed

@[simp] theorem exchangesUntilFailure_nil (s : σ) :
    device.exchangesUntilFailure [] s = [] := rfl

theorem exchangesUntilFailure_cons_of_some {r : Request} {s : σ} {cause : ProbeError}
    (h : r.failure? (device.answer s r.endpoint).1 = some cause) (rest : List Request) :
    device.exchangesUntilFailure (r :: rest) s = [⟨r, (device.answer s r.endpoint).1⟩] :=
  List.throughFirst_cons_of_pos (by simp [Exchange.failed, Exchange.failure?, h]) _

theorem exchangesUntilFailure_cons_of_none {r : Request} {s : σ}
    (h : r.failure? (device.answer s r.endpoint).1 = none) (rest : List Request) :
    device.exchangesUntilFailure (r :: rest) s =
      ⟨r, (device.answer s r.endpoint).1⟩ ::
        device.exchangesUntilFailure rest (device.answer s r.endpoint).2 :=
  List.throughFirst_cons_of_neg (by simp [Exchange.failed, Exchange.failure?, h]) _

/-- `exchanges` asks what is requested, in this order. -/
theorem map_endpoint_exchanges (requests : List Request) (s : σ) :
    (device.exchanges requests s).map Exchange.endpoint = requests.map (·.endpoint) := by
  induction requests generalizing s with
  | nil => rfl
  | cons r rest ih =>
    rw [exchanges, List.map_cons, List.map_cons, ih]
    rfl

/-- `exchangesUntilFailure` makes the first of the `requests`, in their order. -/
theorem map_endpoint_exchangesUntilFailure_prefix (requests : List Request) (s : σ) :
    (device.exchangesUntilFailure requests s).map Exchange.endpoint <+:
      requests.map (·.endpoint) := by
  rw [← map_endpoint_exchanges device requests s]
  exact (List.throughFirst_prefix _ _).map _

end Device

namespace Dialogue

variable {α β σ : Type}

theorem run_ask (endpoint : Endpoint) (next : Answer → Dialogue α) (device : Device σ) (s : σ) :
    (ask endpoint next).run device s =
      let reply := device.answer s endpoint
      let t := (next reply.1).run device reply.2
      { t with calls := endpoint :: t.calls } := rfl

/-- Only the questions among `calls` change the state of a device. -/
theorem state_run (d : Dialogue α) (device : Device σ) (s : σ) :
    (d.run device s).state = device.after s (d.run device s).calls := by
  induction d generalizing s with
  | done a => rfl
  | ask endpoint next ih => exact ih _ _
  | note event next ih => exact ih s

/-! ## Dialogues that follow a list of requests -/

/-- Whatever the answers are, the `requests` are made one after the other.  The first that fails
ends the dialogue with its error; if none does, the dialogue ends with a value with `ended`. -/
inductive Follows (ended : Except ProbeError α → Prop) :
    List Request → Dialogue (Except ProbeError α) → Prop
  | done {x : Except ProbeError α} (h : ended x) : Follows ended [] (.done x)
  | note {requests : List Request} {event : Event} {next : Dialogue (Except ProbeError α)}
    (h : Follows ended requests next) : Follows ended requests (.note event next)
  | ask {r : Request} {rest : List Request} {next : Answer → Dialogue (Except ProbeError α)}
    (hfail : ∀ answer cause, r.failure? answer = some cause → next answer = .done (.error cause))
    (hrest : ∀ answer, r.failure? answer = none → Follows ended rest (next answer)) :
    Follows ended (r :: rest) (.ask r.endpoint next)

/-- The end of a dialogue in which nothing failed. -/
def Succeeds (x : Except ProbeError α) : Prop := ∃ a, x = .ok a

namespace Follows

variable {ended : Except ProbeError α → Prop} {requests : List Request}
  {d : Dialogue (Except ProbeError α)}

/-- What `Follows` says of the end may be loosened. -/
theorem mono {wider : Except ProbeError α → Prop} (hd : Follows ended requests d)
    (h : ∀ x, ended x → wider x) : Follows wider requests d := by
  induction hd with
  | done hx => exact .done (h _ hx)
  | note _ ih => exact .note ih
  | ask hfail _ ih => exact .ask hfail ih

/-- If `d` follows `requests` and succeeds, and then `f` follows `others`, then both together follow
the one list behind the other.  A failure of `d` is the end, as `herror` says. -/
theorem bind {last : Except ProbeError β → Prop} {others : List Request}
    {f : Except ProbeError α → Dialogue (Except ProbeError β)}
    (hd : Follows Succeeds requests d) (hok : ∀ a, Follows last others (f (.ok a)))
    (herror : ∀ cause, f (.error cause) = .done (.error cause)) :
    Follows last (requests ++ others) (d >>= f) := by
  induction hd with
  | done hx =>
    obtain ⟨a, rfl⟩ := hx
    exact hok a
  | note _ ih => exact .note ih
  | @ask r rest next hfail _ ih =>
    refine .ask (fun answer cause h => ?_) ih
    -- A failure passes by what would have come next.
    show next answer >>= f = _
    rw [hfail answer cause h, done_bind, herror]

/-- A dialogue that `Follows` the `requests` asks for them up to the first that fails. -/
theorem calls_run (h : Follows ended requests d) (device : Device σ) (s : σ) :
    (d.run device s).calls =
      (device.exchangesUntilFailure requests s).map Exchange.endpoint := by
  induction h generalizing s with
  | done _ => rfl
  | note _ ih => exact ih s
  | @ask r rest next hfail hrest ih =>
    -- The answer in this state decides whether the rest of the list is gone through.
    cases hreply : r.failure? (device.answer s r.endpoint).1 with
    | some cause =>
      rw [device.exchangesUntilFailure_cons_of_some hreply, run_ask]
      simp only [hfail _ _ hreply]
      rfl
    | none =>
      have hnext := ih _ hreply (device.answer s r.endpoint).2
      rw [device.exchangesUntilFailure_cons_of_none hreply, run_ask, List.map_cons, ← hnext]
      rfl

/-- The `run` of a dialogue that `Follows` the `requests` ends with the error of the one that
failed; if none did, it ends with a value with `ended`. -/
theorem value_run (h : Follows ended requests d) (device : Device σ) (s : σ) :
    (∀ x ∈ device.exchangesUntilFailure requests s, ∀ cause, x.failure? = some cause →
      (d.run device s).value = .error cause) ∧
    ((∀ x ∈ device.exchangesUntilFailure requests s, x.failure? = none) →
      ended (d.run device s).value) := by
  induction h generalizing s with
  | done hx => exact ⟨by simp, fun _ => hx⟩
  | note _ ih => exact ih s
  | @ask r rest next hfail hrest ih =>
    cases hreply : r.failure? (device.answer s r.endpoint).1 with
    | some cause =>
      have hend : ((Dialogue.ask r.endpoint next).run device s).value = .error cause := by
        rw [run_ask]
        simp only [hfail _ _ hreply]
        rfl
      rw [device.exchangesUntilFailure_cons_of_some hreply, hend]
      simp [Exchange.failure?, hreply]
    | none =>
      have hnext := ih _ hreply (device.answer s r.endpoint).2
      rw [device.exchangesUntilFailure_cons_of_none hreply]
      -- A request that did not fail has no error of its own, so the others decide.
      refine ⟨fun x hx cause hcause => ?_, fun hnone => ?_⟩
      · rcases List.mem_cons.1 hx with rfl | hx
        · simp [Exchange.failure?, hreply] at hcause
        · exact hnext.1 x hx cause hcause
      · exact hnext.2 fun x hx => hnone x (List.mem_cons_of_mem _ hx)

end Follows

/-- Events before a dialogue are no requests. -/
theorem follows_noteAll_bind {ended : Except ProbeError α → Prop} {requests : List Request}
    {d : Dialogue (Except ProbeError α)} (events : List Event) (h : Follows ended requests d) :
    Follows ended requests (noteAll events >>= fun _ => d) := by
  induction events with
  | nil => exact h
  | cons e rest ih => exact .note ih

end Dialogue

namespace Collection

open Dialogue (Follows Succeeds)

variable {α β : Type}

/-- `pure` makes no request. -/
theorem follows_pure (a : α) : Follows Succeeds [] (pure a : Collection α).run := .done ⟨a, rfl⟩

/-- `fetch` is one question, whose answer goes to `readAnswer`. -/
theorem run_fetch_eq (decoder : Decoder α) (path query : String) :
    (fetch decoder path query).run =
      .ask ⟨path, query⟩ fun answer => .done (readAnswer decoder path answer) := by
  refine congrArg (Dialogue.ask _) (funext fun answer => ?_)
  cases answer <;> rfl

/-- `readAnswer` of a value is that of the `decoder`, whose error is put under the `path`. -/
theorem readAnswer_ok (decoder : Decoder α) (path : String) (v : Json) :
    readAnswer decoder path (.ok v) =
      match decoder v with
      | .error cause => .error (.decode path cause)
      | .ok a => .ok a := by
  show (decoder v).mapError (ProbeError.decode path) = _
  cases decoder v <;> rfl

/-- A request fails exactly if `readAnswer` is an error, and with that error. -/
theorem failure?_of (decoder : Decoder α) (path query : String) (answer : Answer) :
    (Request.of decoder path query).failure? answer =
      match readAnswer decoder path answer with
      | .error cause => some cause
      | .ok _ => none := by
  cases answer with
  | error cause => rfl
  | ok v =>
    rw [readAnswer_ok]
    cases hread : decoder v <;> simp [Request.failure?, Request.of, hread, Except.map]

/-- To `fetch` is to make one request. -/
theorem follows_fetch (decoder : Decoder α) (path query : String) :
    Follows Succeeds [.of decoder path query] (fetch decoder path query).run := by
  rw [run_fetch_eq]
  refine .ask (fun answer cause h => ?_) fun answer h => ?_
  · rw [failure?_of] at h
    cases hread : readAnswer decoder path answer with
    | error e => simpa [hread] using h
    | ok a => simp [hread] at h
  · rw [failure?_of] at h
    cases hread : readAnswer decoder path answer with
    | error e => simp [hread] at h
    | ok a => exact .done ⟨a, rfl⟩

/-- The events of `x` are no requests. -/
theorem follows_ofLogged (x : Logged α) : Follows Succeeds [] (ofLogged x).run := by
  rw [ofLogged, ExceptT.run_lift, Dialogue.ofLogged]
  simp only [map_bind, map_pure]
  exact Dialogue.follows_noteAll_bind x.events (follows_pure x.value)

/-- `Follows.bind` for collections, where a failure of `c` is always the end. -/
theorem follows_bind {c : Collection α} {f : α → Collection β}
    {last : Except ProbeError β → Prop} {requests others : List Request}
    (hc : Follows Succeeds requests c.run) (hf : ∀ a, Follows last others (f a).run) :
    Follows last (requests ++ others) (c >>= f).run := by
  rw [ExceptT.run_bind]
  exact hc.bind hf fun _ => rfl

/-- A `fetch` puts its request before those of what comes after it. -/
theorem follows_fetch_bind {decoder : Decoder α} {path query : String} {f : α → Collection β}
    {last : Except ProbeError β → Prop} {others : List Request}
    (hf : ∀ a, Follows last others (f a).run) :
    Follows last (.of decoder path query :: others) (fetch decoder path query >>= f).run :=
  follows_bind (follows_fetch decoder path query) hf

end Collection
end FirewallProbe
