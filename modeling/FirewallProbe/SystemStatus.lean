import FirewallProbe.Envelope

/-! # Identity of the device

The status endpoint tells what the device is.  It is asked once in a scrape, before everything
else. -/

namespace FirewallProbe

/-- What the device says about itself. -/
structure SystemStatus where
  modelName : String := ""
  modelNumber : String := ""
  model : String := ""
  hostname : String := ""
  deriving Inhabited

namespace SystemStatus

/-- The path of the status endpoint. -/
def path : String := "monitor/system/status"

/-- How a status is read. -/
def record : Record Json SystemStatus where
  name := "SystemStatus"
  blank := {}
  fields := [
    .optional "model_name" Decoder.text fun v s => { s with modelName := v },
    .optional "model_number" Decoder.text fun v s => { s with modelNumber := v },
    .optional "model" Decoder.text fun v s => { s with model := v },
    .optional "hostname" Decoder.text fun v s => { s with hostname := v }]

/-- Reads the answer of the status endpoint. -/
def decoder : Decoder (Envelope SystemStatus) := Envelope.decoder (Decoder.record record)

end SystemStatus
end FirewallProbe
