import FirewallProbe.Resource.AccessPoint
import FirewallProbe.Resource.BgpNeighbor
import FirewallProbe.Resource.BgpPath
import FirewallProbe.Resource.Certificate
import FirewallProbe.Resource.ClusterMember
import FirewallProbe.Resource.DeviceInfo
import FirewallProbe.Resource.Interface
import FirewallProbe.Resource.IpsecTunnel
import FirewallProbe.Resource.License
import FirewallProbe.Resource.LinkHealth
import FirewallProbe.Resource.OspfNeighbor
import FirewallProbe.Resource.PolicyTraffic
import FirewallProbe.Resource.Sensor
import FirewallProbe.Resource.SslVpn
import FirewallProbe.Resource.SwitchPort
import FirewallProbe.Resource.UpdateServer
import FirewallProbe.Resource.Usage
import FirewallProbe.Resource.VirtualDomain
import FirewallProbe.Scrape

/-! # The table of routines -/

namespace FirewallProbe

/-- All routines, in the order in which they run. -/
def routineTable : List Routine := [
  DeviceInfo.routine,
  Usage.routine,
  VirtualDomain.routine,
  ClusterMember.routine,
  LinkMonitor.routine,
  UpdateServer.routine,
  Sensor.routine,
  License.routine,
  Interface.routine,
  PolicyTraffic.routine,
  WanHealth.routine,
  IpsecTunnel.routine,
  SslVpn.routine,
  BgpNeighbor.ipv4Routine,
  BgpNeighbor.ipv4StateRoutine,
  BgpNeighbor.ipv6Routine,
  BgpPath.ipv4Routine,
  BgpPath.ipv6Routine,
  OspfNeighbor.routine,
  AccessPoint.routine,
  ManagedSwitch.routine,
  Certificate.routine]

/-- Scrapes a device with the routines of `routineTable`. -/
def scrape (options : ProbeOptions) : Dialogue ScrapeReport :=
  Scrape.scrapeWith routineTable options

end FirewallProbe
