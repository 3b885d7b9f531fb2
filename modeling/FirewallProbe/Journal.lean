/-! # Diagnostic events

An event has a level, a message and named fields.  `Logged α` is a value together with the events
noted on the way to it, in order. -/

namespace FirewallProbe

/-- How grave an event is. -/
inductive Level where
  | error
  | warn
  | info
  | debug
  deriving DecidableEq, Repr

/-- The name of a level. -/
def Level.name : Level → String
  | .error => "ERROR"
  | .warn => "WARN"
  | .info => "INFO"
  | .debug => "DEBUG"

/-- A diagnostic event. -/
structure Event where
  level : Level
  message : String
  fields : List (String × String)
  deriving DecidableEq, Repr

/-- A value with the events noted on the way to it. -/
structure Logged (α : Type u) where
  value : α
  events : List Event := []

namespace Logged

/-- Notes the event `e`. -/
def note (e : Event) : Logged Unit := ⟨(), [e]⟩

instance : Monad Logged where
  pure a := ⟨a, []⟩
  bind x f :=
    let y := f x.value
    ⟨y.value, x.events ++ y.events⟩

@[simp] theorem value_pure {α : Type u} (a : α) : (pure a : Logged α).value = a := rfl

@[simp] theorem events_pure {α : Type u} (a : α) : (pure a : Logged α).events = [] := rfl

@[simp] theorem value_bind {α β : Type u} (x : Logged α) (f : α → Logged β) :
    (x >>= f).value = (f x.value).value := rfl

@[simp] theorem events_bind {α β : Type u} (x : Logged α) (f : α → Logged β) :
    (x >>= f).events = x.events ++ (f x.value).events := rfl

/-- The lists that `f` gives for the members of a list, joined in order, with all events. -/
def flatMap {α : Type u} {β : Type v} (f : α → Logged (List β)) : List α → Logged (List β)
  | [] => ⟨[], []⟩
  | a :: rest =>
    let first := f a
    let others := flatMap f rest
    ⟨first.value ++ others.value, first.events ++ others.events⟩

/-- The value of `flatMap` is that of `List.flatMap`. -/
@[simp] theorem value_flatMap {α : Type u} {β : Type v} (f : α → Logged (List β)) (as : List α) :
    (flatMap f as).value = as.flatMap fun a => (f a).value := by
  induction as with
  | nil => rfl
  | cons a rest ih => simp [flatMap, ih]

/-- `flatMap` notes what `f` notes for each member, in order. -/
@[simp] theorem events_flatMap {α : Type u} {β : Type v} (f : α → Logged (List β)) (as : List α) :
    (flatMap f as).events = as.flatMap fun a => (f a).events := by
  induction as with
  | nil => rfl
  | cons a rest ih => simp [flatMap, ih]

end Logged
end FirewallProbe
