/-! # Metrics

A `Family` describes a metric: its name, help text, kind and label names.  A `Sample` is one value
of a family with its labels.  All samples taken through one family carry the same label names in
the same order. -/

namespace FirewallProbe

/-- The kind of a metric. -/
inductive Kind where
  | gauge
  | counter
  deriving DecidableEq, Repr

/-- The name of a kind. -/
def Kind.name : Kind → String
  | .gauge => "gauge"
  | .counter => "counter"

/-- One labelled value. -/
structure Sample where
  name : String
  help : String
  kind : Kind
  value : Float
  labels : List (String × String)
  deriving DecidableEq

/-- The value of the label `key`. -/
def Sample.label? (s : Sample) (key : String) : Option String :=
  (s.labels.find? fun l => l.1 == key).map (·.2)

/-- The description of a metric. -/
structure Family where
  name : String
  help : String
  kind : Kind
  labels : List String
  deriving DecidableEq, Repr

namespace Family

/-- A family of gauges. -/
def gauge (name help : String) (labels : List String) : Family := ⟨name, help, .gauge, labels⟩

/-- A family of counters. -/
def counter (name help : String) (labels : List String) : Family := ⟨name, help, .counter, labels⟩

/-- One sample of `f`; the label `values` stand in the order of the label names of the family. -/
def sample (f : Family) (value : Float) (values : List String) : Sample :=
  { name := f.name, help := f.help, kind := f.kind, value, labels := f.labels.zip values }

@[simp] theorem name_sample (f : Family) (v : Float) (ls : List String) :
    (f.sample v ls).name = f.name := rfl

@[simp] theorem help_sample (f : Family) (v : Float) (ls : List String) :
    (f.sample v ls).help = f.help := rfl

@[simp] theorem kind_sample (f : Family) (v : Float) (ls : List String) :
    (f.sample v ls).kind = f.kind := rfl

@[simp] theorem value_sample (f : Family) (v : Float) (ls : List String) :
    (f.sample v ls).value = v := rfl

/-- A `sample` has all the label names of its family if it was given one value for each. -/
theorem keys_sample (f : Family) (v : Float) {ls : List String}
    (h : ls.length = f.labels.length) : (f.sample v ls).labels.map (·.1) = f.labels := by
  simp [sample, List.map_fst_zip, h]

end Family

/-- One for a condition that holds, zero for one that does not. -/
def indicator (b : Bool) : Float := if b then 1.0 else 0.0

end FirewallProbe
