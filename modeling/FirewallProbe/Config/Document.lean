import FirewallProbe.Config.Basic
import FirewallProbe.Json5.Decoder
import FirewallProbe.Json5.Parser

/-! # Configuration documents

A configuration is written in JSON5.  Everything but a target's token may be left out.  Reading
decodes the document, keeps the targets by the one spelling of their URL, and checks the rules. -/

namespace FirewallProbe

/-- Why a configuration is not accepted. -/
inductive ConfigError where
  | notFound
  | notText
  | syntaxError
  | shape (cause : Mismatch)
  | invalid (fault : ConfigFault)

/-- The wording of a configuration error. -/
def ConfigError.message : ConfigError → String
  | .notFound => "Failed to read config file: no such file"
  | .notText => "Failed to read config file: stream did not contain valid UTF-8"
  | .syntaxError => "Failed to parse config: invalid syntax"
  | .shape cause => s!"Failed to parse config: {cause.message}"
  | .invalid fault => s!"Validation error: {fault.message}"

/-- How the place where the exporter answers is read. -/
def ServerSettings.record : Record Json5 ServerSettings where
  name := "ServerConfig"
  blank := {}
  fields := [
    .optional "listen" Json5.Decoder.text fun v s => { s with listen := v },
    .optional "probe_path" Json5.Decoder.text fun v s => { s with probePath := v },
    .optional "metrics_path" Json5.Decoder.text fun v s => { s with metricsPath := v }]

/-- How limits are read. -/
def ScrapeSettings.record : Record Json5 ScrapeSettings where
  name := "ScrapeConfig"
  blank := {}
  fields := [
    .optional "timeout_secs" Json5.Decoder.word fun v s => { s with timeout := v },
    .optional "request_timeout_secs" Json5.Decoder.word fun v s => { s with requestTimeout := v },
    .optional "max_bgp_paths" Json5.Decoder.word fun v s => { s with maxBgpPaths := v }]

/-- How the choice of routines is read. -/
def RoutineSelection.record : Record Json5 RoutineSelection where
  name := "RoutineSelection"
  blank := {}
  fields := [
    .optional "include" (Json5.Decoder.list Json5.Decoder.text)
      fun v s => { s with included := v },
    .optional "exclude" (Json5.Decoder.list Json5.Decoder.text)
      fun v s => { s with excluded := v }]

/-- How a target is read. -/
def Target.record : Record Json5 Target where
  name := "TargetConfig"
  blank := {}
  fields := [
    .mandatory "token" Json5.Decoder.text fun v t => { t with token := v },
    .optional "insecure" Json5.Decoder.bool fun v t => { t with insecure := v },
    .optional "routines" (Json5.Decoder.record RoutineSelection.record)
      fun v t => { t with routines := v }]

/-- Reads the name of a format. -/
def LogFormat.decoder : Json5.Decoder LogFormat := fun v => do
  let name ← Json5.Decoder.variant ["text", "json"] v
  return if name = "json" then .json else .text

/-- How the logging settings are read. -/
def LoggingSettings.record : Record Json5 LoggingSettings where
  name := "LoggingConfig"
  blank := {}
  fields := [
    .optional "level" Json5.Decoder.text fun v s => { s with level := v },
    .optional "format" LogFormat.decoder fun v s => { s with format := v }]

namespace Config

/-- How all settings are read. -/
def record : Record Json5 Config where
  name := "ExporterConfig"
  blank := {}
  fields := [
    .optional "server" (Json5.Decoder.record ServerSettings.record)
      fun v c => { c with server := v },
    .optional "scrape" (Json5.Decoder.record ScrapeSettings.record)
      fun v c => { c with scrape := v },
    .optional "targets" (Json5.Decoder.dict (Json5.Decoder.record Target.record))
      fun v c => { c with targets := v },
    .optional "logging" (Json5.Decoder.record LoggingSettings.record)
      fun v c => { c with logging := v }]

/-- Reads the document in `text`; its targets are kept under the URLs as they are written. -/
def ofText (text : String) : Except ConfigError Config :=
  match Json5.parse text with
  | none => .error .syntaxError
  | some document => (Json5.Decoder.record record document).mapError .shape

/-- Keeps the `targets`, taken in this order, by the one spelling of their URL, and checks the
rules. -/
def settle (c : Config) (targets : List (String × Target)) : Except ConfigError Config := do
  let config := { c with targets := rekey targets }
  config.validate.mapError .invalid
  return config

/-- Reads the configuration in `text`: `ofText`, then `settle` in the order of the URLs. -/
def parse (text : String) : Except ConfigError Config := do
  let config ← ofText text
  config.settle config.targets.entries

/-- Reads a configuration from the `bytes` of a file, which must be UTF-8. -/
def ofBytes (bytes : ByteArray) : Except ConfigError Config :=
  match String.fromUTF8? bytes with
  | none => .error .notText
  | some text => parse text

/-- Reads a configuration file, if there is one. -/
def ofFile : Option ByteArray → Except ConfigError Config
  | none => .error .notFound
  | some bytes => ofBytes bytes

end Config
end FirewallProbe
