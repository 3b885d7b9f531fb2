import FirewallProbe.Config.Basic

/-! # Settings as JSON -/

namespace FirewallProbe

/-- A list of texts. -/
private def textList (items : List String) : Json := .arr (items.map .str)

/-- Where the exporter answers, as JSON. -/
def ServerSettings.toJson (s : ServerSettings) : Json := .object [
  ("listen", .str s.listen), ("probe_path", .str s.probePath),
  ("metrics_path", .str s.metricsPath)]

/-- Limits as JSON. -/
def ScrapeSettings.toJson (s : ScrapeSettings) : Json := .object [
  ("timeout_secs", .int s.timeout), ("request_timeout_secs", .int s.requestTimeout),
  ("max_bgp_paths", .int s.maxBgpPaths)]

/-- The choice of routines as JSON. -/
def RoutineSelection.toJson (s : RoutineSelection) : Json := .object [
  ("include", textList s.included), ("exclude", textList s.excluded)]

/-- A target as JSON. -/
def Target.toJson (t : Target) : Json := .object [
  ("token", .str t.token), ("insecure", .bool t.insecure), ("routines", t.routines.toJson)]

/-- The logging settings as JSON. -/
def LoggingSettings.toJson (s : LoggingSettings) : Json := .object [
  ("level", .str s.level), ("format", .str s.format.name)]

/-- All settings as JSON. -/
def Config.toJson (c : Config) : Json := .object [
  ("server", c.server.toJson), ("scrape", c.scrape.toJson),
  ("targets", .object (c.targets.entries.map fun (url, t) => (url, t.toJson))),
  ("logging", c.logging.toJson)]

end FirewallProbe
