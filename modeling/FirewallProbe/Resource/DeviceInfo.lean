import FirewallProbe.Routine

/-! # Identity of the device

One info metric with serial number, version, build, model and host name.  It is made of the status
that the scrape asked for at its start; nothing is asked again. -/

namespace FirewallProbe
namespace DeviceInfo

/-- The info metric. -/
def versionInfo : Family := .gauge "fortigate_version_info"
  "System version and build information" ["serial", "version", "build", "model", "hostname"]

/-- The sample of a status. -/
def samples (status : Envelope SystemStatus) : List Sample :=
  [versionInfo.sample 1.0 [
    status.serial.getD "",
    status.version.getD "",
    (status.build.map toString).getD "",
    status.results.model,
    status.results.hostname]]

/-- Reports the identity of the device, if the scrape obtained it. -/
def routine : Routine where
  name := "system_status"
  collect ctx :=
    match ctx.status with
    | none => throw (.unavailable "system status")
    | some status => return samples status

end DeviceInfo
end FirewallProbe
