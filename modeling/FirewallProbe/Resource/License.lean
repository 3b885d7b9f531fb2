import FirewallProbe.FanOut
import FirewallProbe.Routine

/-! # Licenses and entitlements

The licenses are an object with two known sections and one entry for each entitlement, whose names
depend on the model and the subscriptions. -/

namespace FirewallProbe

/-- The licenses for virtual domains. -/
structure DomainLicense where
  used : Option Float := none
  available : Option Float := none

/-- How the licenses for virtual domains are read. -/
def DomainLicense.record : Record Json DomainLicense where
  name := "VdomLicense"
  blank := {}
  fields := [
    .optional "used" (Decoder.nullable Decoder.double) fun v l => { l with used := v },
    .optional "max" (Decoder.nullable Decoder.double) fun v l => { l with available := v }]

/-- The support registration of the device. -/
structure Registration where
  status : String := ""

/-- How the registration is read. -/
def Registration.record : Record Json Registration where
  name := "ForticareLicense"
  blank := {}
  fields := [.optional "registration_status" Decoder.text fun v r => { r with status := v }]

/-- The known sections. -/
structure LicenseSections where
  domains : DomainLicense := {}
  registration : Registration := {}
  deriving Inhabited

/-- How the known sections are read. -/
def LicenseSections.record : Record Json LicenseSections where
  name := "Fixed"
  blank := {}
  fields := [
    .optional "vdom" (Decoder.record DomainLicense.record) fun v s => { s with domains := v },
    .optional "forticare" (Decoder.record Registration.record)
      fun v s => { s with registration := v }]

/-- An entitlement; `expires` counts seconds from the Unix epoch. -/
structure Entitlement where
  status : String := ""
  expires : Option Float := none

/-- How an entitlement is read. -/
def Entitlement.record : Record Json Entitlement where
  name := "Entitlement"
  blank := {}
  fields := [
    .optional "status" Decoder.text fun v e => { e with status := v },
    .optional "expires" (Decoder.nullable Decoder.double) fun v e => { e with expires := v }]

namespace License

/-- The names of the known sections. -/
def sectionNames : List String := ["vdom", "forticare"]

/-- The states of an entitlement. -/
def entitlementStates : List String := ["licensed", "expired", "no_license", "pending"]

/-- The states of the registration. -/
def registrationStates : List String := ["registered", "unregistered", "pending"]

def domainsUsed : Family := .gauge "fortigate_license_vdom_usage"
  "The amount of VDOM licenses currently used" []

def domainsAvailable : Family := .gauge "fortigate_license_vdom_max"
  "The total amount of VDOM licenses available" []

def registrationStatus : Family := .gauge "fortigate_license_forticare_registration_status"
  "FortiCare registration state of the device" ["state"]

def entitlementStatus : Family := .gauge "fortigate_license_status"
  "State of a FortiGuard entitlement" ["entitlement", "state"]

def entitlementExpiry : Family := .gauge "fortigate_license_expiry_timestamp_seconds"
  "Unix time at which the entitlement expires" ["entitlement"]

/-- The sample of `family` for a `value` that may be missing. -/
def optionalSample (family : Family) (labels : List String) (value : Option Float) :
    List Sample :=
  (value.map fun v => family.sample v labels).toList

/-- The samples of the entitlement `e` called `name`. -/
def entitlementSamples (name : String) (e : Entitlement) : List Sample :=
  entitlementStatus.samplePerState [name] e.status entitlementStates ++
    optionalSample entitlementExpiry [name] e.expires

/-- The samples of all licenses. -/
def samples (license : MixedRecord LicenseSections Entitlement) : List Sample :=
  optionalSample domainsUsed [] license.fixed.domains.used ++
    optionalSample domainsAvailable [] license.fixed.domains.available ++
    registrationStatus.samplePerState [] license.fixed.registration.status registrationStates ++
    license.dynamic.entries.flatMap fun (name, e) => entitlementSamples name e

/-- Reports the licenses. -/
def routine : Routine :=
  .ofEndpoint "license_status" none
    (Envelope.decoder (MixedRecord.decoder sectionNames (Decoder.record LicenseSections.record)
      (Decoder.record Entitlement.record)))
    "monitor/license/status" "" fun e => samples e.results

end License
end FirewallProbe
