import FirewallProbe.Journal
import FirewallProbe.ProbeError

/-! # Talking to a device

A `Dialogue α` is a program that asks a device for endpoints, notes events and ends with an `α`.
It is data: what it asks next may depend on the answers so far, and nothing else can happen in it.
A `Device` answers from a state that each question may change; `Dialogue.run` plays a dialogue
against one and keeps the questions and the events in order. -/

namespace FirewallProbe

/-- A question to a device: a path and a query. -/
structure Endpoint where
  path : String
  query : String
  deriving DecidableEq, Repr

/-- The answer to a question. -/
abbrev Answer := Except FetchError Json

/-- Something that answers questions, from a state that each question may change. -/
structure Device (σ : Type) where
  answer : σ → Endpoint → Answer × σ

/-- A program that talks to a device. -/
inductive Dialogue (α : Type) where
  | done (value : α)
  | ask (endpoint : Endpoint) (next : Answer → Dialogue α)
  | note (event : Event) (next : Dialogue α)

namespace Dialogue

variable {α β : Type}

/-- Goes on with the dialogue that the second argument makes of the end of the first. -/
def andThen : Dialogue α → (α → Dialogue β) → Dialogue β
  | done a, f => f a
  | ask endpoint next, f => ask endpoint fun answer => (next answer).andThen f
  | note event next, f => note event (next.andThen f)

instance : Monad Dialogue where
  pure := done
  bind := andThen

@[simp] theorem pure_eq (a : α) : (pure a : Dialogue α) = done a := rfl

@[simp] theorem done_bind (a : α) (f : α → Dialogue β) : (done a >>= f) = f a := rfl

@[simp] theorem ask_bind (e : Endpoint) (next : Answer → Dialogue α) (f : α → Dialogue β) :
    (ask e next >>= f) = ask e fun answer => next answer >>= f := rfl

@[simp] theorem note_bind (e : Event) (next : Dialogue α) (f : α → Dialogue β) :
    (note e next >>= f) = note e (next >>= f) := rfl

private theorem bind_done (d : Dialogue α) : d >>= done = d := by
  induction d with
  | done => rfl
  | ask e next ih => simp [ih]
  | note e next ih => simp [ih]

private theorem bind_assoc' {γ : Type} (d : Dialogue α) (f : α → Dialogue β)
    (g : β → Dialogue γ) : d >>= f >>= g = d >>= fun a => f a >>= g := by
  induction d with
  | done => rfl
  | ask e next ih => simp [ih]
  | note e next ih => simp [ih]

instance : LawfulMonad Dialogue :=
  LawfulMonad.mk' Dialogue bind_done (fun _ _ => rfl) bind_assoc'

/-- Notes a list of events. -/
def noteAll : List Event → Dialogue Unit
  | [] => done ()
  | e :: rest => note e (noteAll rest)

/-- The value of the logged computation `x`, with its events noted. -/
def ofLogged (x : Logged α) : Dialogue α := do
  noteAll x.events
  return x.value

/-- Plays a dialogue with questions (`ask`) and events (`note`) as steps of another monad. -/
def interpret {m : Type → Type} [Monad m] (ask : Endpoint → m Answer) (note : Event → m Unit) :
    Dialogue α → m α
  | done a => pure a
  | .ask endpoint next => do
    let answer ← ask endpoint
    (next answer).interpret ask note
  | .note event next => do
    note event
    next.interpret ask note

/-- What a dialogue with a device came to. -/
structure Transcript (σ α : Type) where
  value : α
  state : σ
  calls : List Endpoint
  events : List Event

/-- Plays a dialogue against a `device`: each question is answered in the state that the ones before
it left. -/
def run {σ : Type} (device : Device σ) : Dialogue α → σ → Transcript σ α
  | done a, state => ⟨a, state, [], []⟩
  | ask endpoint next, state =>
    let (answer, state) := device.answer state endpoint
    let t := (next answer).run device state
    { t with calls := endpoint :: t.calls }
  | note event next, state =>
    let t := next.run device state
    { t with events := event :: t.events }

section run

variable {σ : Type} (device : Device σ)

@[simp] theorem run_done (a : α) (s : σ) : (done a).run device s = ⟨a, s, [], []⟩ := rfl

/-- A dialogue goes on in the state that its first part left, and what both parts asked and noted
adds up. -/
theorem run_bind (d : Dialogue α) (f : α → Dialogue β) (s : σ) :
    (d >>= f).run device s =
      let first := d.run device s
      let second := (f first.value).run device first.state
      ⟨second.value, second.state, first.calls ++ second.calls, first.events ++ second.events⟩ := by
  induction d generalizing s with
  | done a => simp
  | ask e next ih => simp [run, ih]
  | note e next ih => simp [run, ih]

@[simp] theorem run_noteAll (events : List Event) (s : σ) :
    (noteAll events).run device s = ⟨(), s, [], events⟩ := by
  induction events with
  | nil => rfl
  | cons e rest ih => simp [noteAll, run, ih]

end run
end Dialogue

/-- A dialogue that may fail. -/
abbrev Collection (α : Type) := ExceptT ProbeError Dialogue α

namespace Collection

variable {α : Type}

/-- Asks for the endpoint `path`, `query` and decodes the answer. -/
def fetch (decoder : Decoder α) (path query : String) : Collection α :=
  ExceptT.mk <| .ask ⟨path, query⟩ fun
    | .error e => .done (.error (.fetch e))
    | .ok v => .done ((decoder v).mapError (.decode path))

/-- The value of a logged computation, with its events noted. -/
def ofLogged (x : Logged α) : Collection α := ExceptT.lift (Dialogue.ofLogged x)

end Collection
end FirewallProbe
