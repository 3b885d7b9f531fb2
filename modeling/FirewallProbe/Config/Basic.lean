import FirewallProbe.Config.TargetUrl
import FirewallProbe.Dict
import FirewallProbe.Duration
import FirewallProbe.Json.Basic
import FirewallProbe.Routine
import FirewallProbe.SocketAddress

/-! # Settings of the exporter

`Config` holds everything that can be set.  `Config.validate` finds the first rule that a
configuration breaks, in a fixed order; `Config.target?` looks a target up under any spelling of its
URL. -/

namespace FirewallProbe

/-- Where the exporter answers. -/
structure ServerSettings where
  listen : String := "0.0.0.0:9710"
  probePath : String := "/probe"
  metricsPath : String := "/metrics"
  deriving DecidableEq, Repr, Inhabited

/-- Limits of a scrape; times count seconds. -/
structure ScrapeSettings where
  timeout : Nat := 30
  requestTimeout : Nat := 10
  maxBgpPaths : Nat := 10000
  deriving DecidableEq, Repr, Inhabited

/-- Patterns of the names of routines that run, or of those that do not; no pattern includes all. -/
structure RoutineSelection where
  included : List String := []
  excluded : List String := []
  deriving DecidableEq, Repr, Inhabited

/-- A device that may be probed. -/
structure Target where
  token : String := ""
  insecure : Bool := false
  routines : RoutineSelection := {}
  deriving DecidableEq, Repr, Inhabited

/-- How events are written. -/
inductive LogFormat where
  | text
  | json
  deriving DecidableEq, Repr, Inhabited

/-- The name of a format. -/
def LogFormat.name : LogFormat → String
  | .text => "text"
  | .json => "json"

/-- What is logged, and how. -/
structure LoggingSettings where
  level : String := "info"
  format : LogFormat := .text
  deriving DecidableEq, Repr, Inhabited

/-- All settings; targets are kept by their URL. -/
structure Config where
  server : ServerSettings := {}
  scrape : ScrapeSettings := {}
  targets : Dict Target := Dict.empty
  logging : LoggingSettings := {}
  deriving Inhabited

/-- A rule that a configuration breaks. -/
inductive ConfigFault where
  | badListenAddress (text : String)
  | relativePath (path : String)
  | samePaths
  | healthReserved
  | zeroTimeout
  | zeroRequestTimeout
  | requestTimeoutTooLong
  | zeroPageSize
  | emptyToken (url : String)
  | badPattern (error : GlobError)
  deriving DecidableEq, Repr

/-- The wording of a broken rule. -/
def ConfigFault.message : ConfigFault → String
  | .badListenAddress text => s!"Invalid listen address: {text}"
  | .relativePath path => s!"Path must start with /: {path}"
  | .samePaths => "probe_path and metrics_path must differ"
  | .healthReserved => "/health is reserved"
  | .zeroTimeout => "timeout_secs must be > 0"
  | .zeroRequestTimeout => "request_timeout_secs must be > 0"
  | .requestTimeoutTooLong => "request_timeout_secs must not exceed timeout_secs"
  | .zeroPageSize => "max_bgp_paths must be > 0"
  | .emptyToken url => s!"Target {url} has an empty token"
  | .badPattern error => s!"Invalid routine pattern: {error.message}"

/-- The settings of a scrape of `target`: the page size of `scrape` and the patterns of the target,
which are read. -/
def Target.probeOptions (target : Target) (scrape : ScrapeSettings) :
    Except ConfigFault ProbeOptions :=
  match RoutineFilter.parse target.routines.included target.routines.excluded with
  | .ok routines => .ok { maxBgpPaths := scrape.maxBgpPaths, routines }
  | .error e => .error (.badPattern e)

/-- The path that tells that the exporter runs. -/
def healthPath : String := "/health"

namespace ServerSettings

/-- The address to listen on. -/
def listenAddress (s : ServerSettings) : Except ConfigFault SocketAddress :=
  match SocketAddress.parse? s.listen with
  | some address => .ok address
  | none => .error (.badListenAddress s.listen)

/-- A `path` must start with a slash. -/
def checkPath (path : String) : Except ConfigFault Unit :=
  match path.toList with
  | '/' :: _ => .ok ()
  | _ => .error (.relativePath path)

/-- The rules about where the exporter answers. -/
def validate (s : ServerSettings) : Except ConfigFault Unit := do
  let _ ← s.listenAddress
  checkPath s.probePath
  checkPath s.metricsPath
  if s.probePath = s.metricsPath then throw .samePaths
  if s.probePath = healthPath ∨ s.metricsPath = healthPath then throw .healthReserved

end ServerSettings

/-- The rules about limits. -/
def ScrapeSettings.validate (s : ScrapeSettings) : Except ConfigFault Unit := do
  if s.timeout = 0 then throw .zeroTimeout
  if s.requestTimeout = 0 then throw .zeroRequestTimeout
  if s.timeout < s.requestTimeout then throw .requestTimeoutTooLong
  if s.maxBgpPaths = 0 then throw .zeroPageSize

/-- The rules about a target: its token is not blank and its patterns can be read. -/
def Target.validate (scrape : ScrapeSettings) (url : String) (target : Target) :
    Except ConfigFault Unit := do
  if (Text.trimChars target.token.toList).isEmpty then throw (.emptyToken url)
  let _ ← target.probeOptions scrape

namespace Config

/-- The rules about targets, in the order of the list. -/
def validateTargets (scrape : ScrapeSettings) : List (String × Target) → Except ConfigFault Unit
  | [] => .ok ()
  | (url, target) :: rest => do
    target.validate scrape url
    validateTargets scrape rest

/-- Finds the first broken rule. -/
def validate (c : Config) : Except ConfigFault Unit := do
  c.server.validate
  c.scrape.validate
  validateTargets c.scrape c.targets.entries

/-- Looks the target up that is kept under the one spelling of `url`; gives it with that
spelling. -/
def target? (c : Config) (url : String) : Option (String × Target) :=
  (c.targets.find? (TargetUrl.normalize url)).map fun target => (TargetUrl.normalize url, target)

/-- The `targets` by the one spelling of their URL; of several with one spelling the last stays. -/
def rekey (targets : List (String × Target)) : Dict Target :=
  Dict.ofList (targets.map fun (url, target) => (TargetUrl.normalize url, target))

/-- The deadline of a probe. -/
def timeout (c : Config) : Duration := .ofSeconds c.scrape.timeout

/-- The limit of one request. -/
def requestTimeout (c : Config) : Duration := .ofSeconds c.scrape.requestTimeout

end Config
end FirewallProbe
