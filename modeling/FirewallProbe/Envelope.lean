import FirewallProbe.Schema.Decoder

/-! # Response envelopes

The device wraps every response in an envelope that names the virtual domain it belongs to.  A
question about all virtual domains is answered by a list of envelopes, one about the whole device
by a single one. -/

namespace FirewallProbe

/-- A response with its wrapping. -/
structure Envelope (α : Type) where
  results : α
  vdom : String := ""
  version : Option String := none
  serial : Option String := none
  build : Option Nat := none

namespace Envelope

variable {α : Type}

/-- How an envelope is read whose results `results` reads. -/
def record [Inhabited α] (results : Decoder α) : Record Json (Envelope α) where
  name := "Envelope"
  blank := { results := default }
  fields := [
    .mandatory "results" results fun v e => { e with results := v },
    .optional "vdom" Decoder.text fun v e => { e with vdom := v },
    .optional "version" (Decoder.nullable Decoder.text) fun v e => { e with version := v },
    .optional "serial" (Decoder.nullable Decoder.text) fun v e => { e with serial := v },
    .optional "build" (Decoder.nullable Decoder.word64) fun v e => { e with build := v }]

/-- Reads a single envelope. -/
def decoder [Inhabited α] (results : Decoder α) : Decoder (Envelope α) :=
  Decoder.record (record results)

/-- Reads one envelope for each virtual domain. -/
def listDecoder [Inhabited α] (results : Decoder α) : Decoder (List (Envelope α)) :=
  Decoder.list (decoder results)

/-- The results of all `envelopes` in order, each with its virtual domain. -/
def perResult (envelopes : List (Envelope (List α))) : List (String × α) :=
  envelopes.flatMap fun e => e.results.map fun a => (e.vdom, a)

end Envelope
end FirewallProbe
