import FirewallProbe.Routine

/-! # Scraping a device

A scrape asks for the identity of the device, then runs the chosen routines of a table one after
the other.  A failing routine does not stop the ones after it. -/

namespace FirewallProbe

/-- How one routine of a scrape went. -/
structure RoutineReport where
  name : String
  outcome : RoutineOutcome

namespace RoutineReport

/-- The name of the outcome. -/
def label (e : RoutineReport) : String := e.outcome.name

/-- Whether the routine counts as a success of the scrape. -/
def isOk (e : RoutineReport) : Bool := e.outcome.isOk

/-- The number of samples that the routine adds to the scrape. -/
def count (e : RoutineReport) : Nat := e.outcome.samples.length

end RoutineReport

/-- The result of a scrape: the samples of all routines in the order of the routines, and whether
every routine succeeded. -/
structure ScrapeReport where
  firmware : Option Firmware
  samples : List Sample := []
  isOk : Bool := true
  routines : List RoutineReport := []

/-- Takes the `outcome` of the routine `name` into a `report`. -/
def ScrapeReport.add (report : ScrapeReport) (name : String) (outcome : RoutineOutcome) :
    ScrapeReport :=
  { report with
    samples := report.samples ++ outcome.samples
    isOk := report.isOk && outcome.isOk
    routines := report.routines ++ [⟨name, outcome⟩] }

namespace Scrape

/-- The event noted when the identity of the device is not obtained, for `cause`. -/
def identityFailedEvent (cause : ProbeError) : Event :=
  ⟨.warn, "Failed to resolve target identity", [("error", cause.message)]⟩

/-- The event noted for a `version` string that cannot be read. -/
def unrecognizedVersionEvent (version : String) : Event :=
  ⟨.warn, "Unrecognized firmware version string", [("version", version)]⟩

/-- The event noted for the `firmware` of the device. -/
def firmwareEvent (firmware : Firmware) : Event :=
  ⟨.debug, "Resolved target firmware", [("firmware", firmware.toText)]⟩

/-- The event noted at the end of a scrape with the report `r`. -/
def finishedEvent (r : ScrapeReport) : Event :=
  ⟨.debug, "Scrape finished",
    [("ok", toString r.isOk), ("metrics", toString r.samples.length),
      ("routines", toString r.routines.length)]⟩

/-- The firmware that a `version` string tells. -/
def firmwareOf (version : Option String) : Option Firmware := version.bind Firmware.parse?

/-- The events noted for a `version` string. -/
def versionEvents (version : Option String) : List Event :=
  match version, firmwareOf version with
  | _, some firmware => [firmwareEvent firmware]
  | some version, none => [unrecognizedVersionEvent version]
  | none, none => []

/-- Asks for the status of the device; a failure is noted. -/
def askStatus : Dialogue (Option (Envelope SystemStatus)) := do
  match ← (Collection.fetch SystemStatus.decoder SystemStatus.path "").run with
  | .ok status => return some status
  | .error cause => .note (identityFailedEvent cause) (.done none)

/-- Asks for the status and settles the context of a scrape with `options`. -/
def resolve (options : ProbeOptions) : Dialogue ScrapeContext := do
  let status ← askStatus
  let version := status.bind (·.version)
  Dialogue.noteAll (versionEvents version)
  return ⟨firmwareOf version, status, options⟩

/-- Runs routines one after the other and takes their outcomes into a `report`. -/
def runAll (ctx : ScrapeContext) (report : ScrapeReport) : List Routine → Dialogue ScrapeReport
  | [] => return report
  | r :: rest => do
    let outcome ← r.run ctx
    runAll ctx (report.add r.name outcome) rest

/-- The routines of a `table` that `options` choose. -/
def chosen (options : ProbeOptions) (table : List Routine) : List Routine :=
  table.filter fun r => options.routines.allows r.name

/-- Scrapes with the routines of a `table`. -/
def scrapeWith (table : List Routine) (options : ProbeOptions) : Dialogue ScrapeReport := do
  let ctx ← resolve options
  let report ← runAll ctx { firmware := ctx.firmware } (chosen options table)
  .note (finishedEvent report) (.done report)

end Scrape
end FirewallProbe
