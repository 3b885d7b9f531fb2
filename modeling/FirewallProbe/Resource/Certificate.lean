import FirewallProbe.FanOut
import FirewallProbe.Measurement
import FirewallProbe.Routine

/-! # Installed certificates

Times count seconds from the Unix epoch. -/

namespace FirewallProbe

/-- A certificate. -/
structure Certificate where
  name : String := ""
  source : String := ""
  kind : String := ""
  status : String := ""
  validFrom : Option Float := none
  validTo : Option Float := none

namespace Certificate

/-- How a certificate is read. -/
def record : Record Json Certificate where
  name := "Certificate"
  blank := {}
  fields := [
    .optional "name" Decoder.text fun v c => { c with name := v },
    .optional "source" Decoder.text fun v c => { c with source := v },
    .optional "type" Decoder.text fun v c => { c with kind := v },
    .optional "status" Decoder.text fun v c => { c with status := v },
    .optional "valid_from" (Decoder.nullable Decoder.double) fun v c => { c with validFrom := v },
    .optional "valid_to" (Decoder.nullable Decoder.double) fun v c => { c with validTo := v }]

/-- The states of a certificate. -/
def states : List String := ["valid", "expired", "pending"]

/-- The labels of the metrics of a certificate. -/
def labelNames : List String := ["name", "source", "type"]

def statusFamily : Family := .gauge "fortigate_certificate_status"
  "Validity state of the certificate" ["name", "source", "type", "state"]

def validFromSeconds : Family := .gauge "fortigate_certificate_valid_from_seconds"
  "Unix time from which the certificate is valid" labelNames

def validToSeconds : Family := .gauge "fortigate_certificate_valid_to_seconds"
  "Unix time at which the certificate expires" labelNames

/-- What is reported about a certificate besides its state. -/
def measurements : List (Measurement Certificate) := [
  validFromSeconds.ofOption (·.validFrom),
  validToSeconds.ofOption (·.validTo)]

/-- The samples of a certificate. -/
def samples (c : Certificate) : List Sample :=
  let labels := [c.name, c.source, c.kind]
  statusFamily.samplePerState labels c.status states ++ Measurement.samples measurements labels c

/-- Reports the certificates. -/
def routine : Routine :=
  .ofEndpoint "certificates" none
    (Envelope.decoder (Decoder.list (Decoder.record record)))
    "monitor/system/available-certificates" "scope=global" fun e => e.results.flatMap samples

end Certificate
end FirewallProbe
