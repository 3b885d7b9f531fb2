import FirewallProbe.Dialogue
import FirewallProbe.Firmware
import FirewallProbe.Glob
import FirewallProbe.Metric
import FirewallProbe.SystemStatus

/-! # Collection routines

A routine collects the samples of one kind of resource.  It may require a firmware version; the
requirement is checked before anything is asked of the device.  A routine that fails gives no
samples at all. -/

namespace FirewallProbe

/-- Settings of a scrape. -/
structure ProbeOptions where
  /-- The page size asked of the BGP path endpoints. -/
  maxBgpPaths : Nat := 10000
  /-- The routines that run. -/
  routines : RoutineFilter := {}

/-- What a routine may consult: it is fixed before the first routine runs. -/
structure ScrapeContext where
  firmware : Option Firmware
  status : Option (Envelope SystemStatus)
  options : ProbeOptions

/-- The endpoint choices of a scrape in the context `ctx`. -/
def ScrapeContext.policy (ctx : ScrapeContext) : EndpointPolicy := EndpointPolicy.of ctx.firmware

/-- A named routine. -/
structure Routine where
  name : String
  since : Option Firmware := none
  collect : ScrapeContext → Collection (List Sample)

/-- The routine `name` that asks one endpoint, `path` with `query`, and makes `samples` of its
answer. -/
def Routine.ofEndpoint {α : Type} (name : String) (since : Option Firmware) (decoder : Decoder α)
    (path query : String) (samples : α → List Sample) : Routine where
  name
  since
  collect _ := do return samples (← Collection.fetch decoder path query)

/-- The routine `name` that asks one endpoint and may note events while it makes `samples` of the
answer. -/
def Routine.ofEndpointLogged {α : Type} (name : String) (since : Option Firmware)
    (decoder : Decoder α) (path query : String) (samples : α → Logged (List Sample)) : Routine where
  name
  since
  collect _ := do Collection.ofLogged (samples (← Collection.fetch decoder path query))

/-- The query that selects every virtual domain. -/
def everyDomain : String := "vdom=*"

/-- What came of a routine. -/
inductive RoutineOutcome where
  | collected (samples : List Sample)
  | skipped
  | failed (cause : ProbeError)

namespace RoutineOutcome

/-- The name of an outcome. -/
def name : RoutineOutcome → String
  | .collected _ => "collected"
  | .skipped => "skipped"
  | .failed _ => "failed"

/-- Whether an outcome counts as a success of the scrape. -/
def isOk : RoutineOutcome → Bool
  | .failed _ => false
  | _ => true

/-- The samples that an outcome adds to the scrape. -/
def samples : RoutineOutcome → List Sample
  | .collected samples => samples
  | _ => []

end RoutineOutcome

namespace Routine

/-- The event noted for the routine `name` when the firmware is below `least`. -/
def unsupportedEvent (name : String) (least : Firmware) : Event :=
  ⟨.debug, "Routine not supported by target firmware, skipping",
    [("routine", name), ("required", least.toText)]⟩

/-- The event noted for the routine `name` when it failed for `cause`. -/
def failedEvent (name : String) (cause : ProbeError) : Event :=
  ⟨.warn, "Routine failed", [("routine", name), ("error", cause.message)]⟩

/-- Whether `firmware` supports the routine `r`; an unknown firmware supports only what needs
none. -/
def isSupported (r : Routine) (firmware : Option Firmware) : Bool :=
  r.since.all (Firmware.meets firmware)

/-- Runs the body of the routine `r`. -/
def attempt (r : Routine) (ctx : ScrapeContext) : Dialogue RoutineOutcome := do
  match ← (r.collect ctx).run with
  | .ok samples => return .collected samples
  | .error cause => .note (failedEvent r.name cause) (.done (.failed cause))

/-- Runs the routine `r` if the firmware of `ctx` supports it. -/
def run (r : Routine) (ctx : ScrapeContext) : Dialogue RoutineOutcome :=
  match r.since with
  | none => r.attempt ctx
  | some least =>
    if Firmware.meets ctx.firmware least then r.attempt ctx
    else .note (unsupportedEvent r.name least) (.done .skipped)

theorem run_eq (r : Routine) (ctx : ScrapeContext) (h : r.isSupported ctx.firmware = true) :
    r.run ctx = r.attempt ctx := by
  unfold run
  unfold isSupported at h
  split <;> simp_all

end Routine
end FirewallProbe
