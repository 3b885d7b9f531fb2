import FirewallProbe.Metric

/-! # States as indicators

A state out of a known list becomes one indicator per known state: one for the state it is, zero
for the others.  A state that is not in the list counts as `unknown`, which is added at the end of
the list unless it stands there already. -/

namespace FirewallProbe

/-- The state of everything that is in no known state. -/
def unknownState : String := "unknown"

/-- The `known` states, with `unknown` at their end if it is not among them. -/
def allStates (known : List String) : List String :=
  if unknownState ∈ known then known else known ++ [unknownState]

/-- The state that is reported for a `status`: itself if it is `known`, else `unknown`. -/
def effectiveState (status : String) (known : List String) : String :=
  if status ∈ known then status else unknownState

/-- One indicator for each of `allStates`, at one for the `effectiveState`. -/
def fanOut (status : String) (known : List String) : List (String × Float) :=
  (allStates known).map fun state => (state, indicator (state == effectiveState status known))

/-- `fanOut` lists `allStates` in their order. -/
theorem map_fst_fanOut (status : String) (known : List String) :
    (fanOut status known).map (·.1) = allStates known := by
  simp [fanOut, Function.comp_def]

/-- One sample of `f` per state; the state is the last label, behind `labels`. -/
def Family.samplePerState (f : Family) (labels : List String) (status : String)
    (known : List String) : List Sample :=
  (fanOut status known).map fun (state, value) => f.sample value (labels ++ [state])

/-- Puts `state` in the last place of the label `values`. -/
def putState (values : List String) (state : String) : List String :=
  values.set (values.length - 1) state

/-- Adds one sample per indicator to those in `out`.  All of them share one list of label `values`,
in which the state of each takes the place of the one before it. -/
def Family.emitIndicators (f : Family) (values : List String) (out : List Sample) :
    List (String × Float) → List Sample
  | [] => out
  | (state, value) :: rest =>
    let values := putState values state
    f.emitIndicators values (out ++ [f.sample value values]) rest

/-- Adds the samples of a `status` to those in `out`. -/
def Family.emitStates (f : Family) (labels : List String) (status : String) (known : List String)
    (out : List Sample) : List Sample :=
  f.emitIndicators (labels ++ [""]) out (fanOut status known)

end FirewallProbe
