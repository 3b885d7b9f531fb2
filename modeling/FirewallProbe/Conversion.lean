import FirewallProbe.Binary64.Reading
import FirewallProbe.Journal
import FirewallProbe.Json.Text
import FirewallProbe.Text.Blank

/-! # Units and missing measurements

The device reports percentages from 0 to 100, times in milliseconds and bandwidths in megabits;
metrics are ratios, seconds and bits.  What the device could not measure becomes NaN, so that it
stays different from zero. -/

namespace FirewallProbe

/-- The value of a measurement that was not made. -/
def notMeasured : Float := 0.0 / 0.0

/-- The percentage `percent` as a ratio. -/
def percentToRatio (percent : Float) : Float := percent / 100.0

/-- Milliseconds as seconds. -/
def millisToSeconds (millis : Float) : Float := millis / 1000.0

/-- Megabits per second as bits per second. -/
def mbpsToBps (mbps : Float) : Float := mbps * 1000000.0

/-- Kibibytes as bytes. -/
def kibibytesToBytes (n : Float) : Float := n * 1024.0

/-- The shortest round-trip time that the device reports, written `<1` milliseconds. -/
def minRoundTrip : Float := 0.001

/-- A measurement that may be missing. -/
def orNotMeasured (x : Option Float) : Float := x.getD notMeasured

/-- The event noted for a text that is no number. -/
def unparseableEvent (raw : String) : Event :=
  ⟨.debug, "Unparseable numeric value, exporting NaN", [("raw", raw)]⟩

/-- The event noted for a round-trip time that is neither number nor text. -/
def unexpectedRoundTripEvent (raw : Json) : Event :=
  ⟨.debug, "Unexpected round-trip time value, exporting NaN", [("raw", raw.compact)]⟩

/-- Reads a number between blanks; nothing but blanks is not measured, and so is, with an event, any
`raw` text that is no number. -/
def parseNumber (raw : String) : Logged Float :=
  let trimmed := Text.trimChars raw.toList
  if trimmed.isEmpty then return notMeasured
  else
    match Binary64.read? trimmed with
    | some x => return x
    | none => do
      Logged.note (unparseableEvent raw)
      return notMeasured

/-- Reads a round-trip time in milliseconds; `<1` stands for `minRoundTrip`. -/
def parseRoundTrip (raw : String) : Logged Float :=
  if Text.trim raw = "<1" then return minRoundTrip
  else do return millisToSeconds (← parseNumber raw)

/-- A round-trip time that may be given as a number or as text. -/
def roundTripOfJson : Json → Logged Float
  | .int n => return millisToSeconds (Binary64.ofInt n)
  | .float x => return millisToSeconds x
  | .str s => parseRoundTrip s
  | .null => return notMeasured
  | v => do
    Logged.note (unexpectedRoundTripEvent v)
    return notMeasured

end FirewallProbe
