import FirewallProbe.Metric

/-! # Measurements

A `Measurement α` is a family of metrics with the value that an `α` has for it, if it has one.  A
list of measurements is the table of what is reported about an entity. -/

namespace FirewallProbe

/-- A family with the value of an entity. -/
structure Measurement (α : Type) where
  family : Family
  value? : α → Option Float

/-- A measurement in `f` that every entity has. -/
def Family.of {α : Type} (f : Family) (value : α → Float) : Measurement α :=
  ⟨f, fun a => some (value a)⟩

/-- A measurement in `f` that an entity may lack. -/
def Family.ofOption {α : Type} (f : Family) (value? : α → Option Float) : Measurement α :=
  ⟨f, value?⟩

namespace Measurement

/-- The sample of the entity `a`, if it has the measurement. -/
def sample? {α : Type} (m : Measurement α) (labels : List String) (a : α) : Option Sample :=
  (m.value? a).map fun value => m.family.sample value labels

/-- The samples of the entity `a`, in the order of the measurements in `table`, all with the same
`labels`. -/
def samples {α : Type} (table : List (Measurement α)) (labels : List String) (a : α) :
    List Sample :=
  table.filterMap fun m => m.sample? labels a

end Measurement
end FirewallProbe
