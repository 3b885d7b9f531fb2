import FirewallProbe.Config.Basic
import FirewallProbe.Journal
import FirewallProbe.Json.Text

/-! # Lines of the log

An event is written as one line of text or of JSON.  The level of the log says which events are
written; a level that is unknown counts as `info`. -/

namespace FirewallProbe

/-- The rank of a level: graver events have a lower one. -/
def Level.rank : Level → Nat
  | .error => 1
  | .warn => 2
  | .info => 3
  | .debug => 4

/-- The highest rank that a log of the named `level` writes. -/
def shownRank (level : String) : Nat :=
  if level = "off" then 0
  else if level = "error" then 1
  else if level = "warn" then 2
  else if level = "debug" then 4
  else if level = "trace" then 5
  else 3

namespace Event

/-- Whether a log with these `settings` writes the event `e`. -/
def isShown (settings : LoggingSettings) (e : Event) : Bool :=
  e.level.rank ≤ shownRank settings.level

/-- An event as a line of text. -/
def textLine (e : Event) : String :=
  s!"{e.level.name} {e.message}" ++ String.join (e.fields.map fun f => s!" {f.1}={f.2}")

/-- An event as a line of JSON. -/
def jsonLine (e : Event) : String :=
  (Json.object [
    ("level", .str e.level.name), ("message", .str e.message),
    ("fields", .object (e.fields.map fun f => (f.1, .str f.2)))]).compact

/-- The line of the event `e`, in the format of the `settings`. -/
def line (settings : LoggingSettings) (e : Event) : String :=
  match settings.format with
  | .text => e.textLine
  | .json => e.jsonLine

end Event
end FirewallProbe
