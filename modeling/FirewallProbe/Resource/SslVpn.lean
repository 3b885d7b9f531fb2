import FirewallProbe.Grouping
import FirewallProbe.Measurement
import FirewallProbe.Routine

/-! # SSL-VPN users

Totals of each virtual domain, and its sessions grouped by user: one user may hold several
sessions, which the device lists one by one. -/

namespace FirewallProbe

/-- Totals at one time. -/
structure SslCounts where
  users : Float := 0.0
  tunnels : Float := 0.0
  connections : Float := 0.0

/-- How totals are read. -/
def SslCounts.record : Record Json SslCounts where
  name := "SslCounts"
  blank := {}
  fields := [
    .optional "users" Decoder.double fun v c => { c with users := v },
    .optional "tunnels" Decoder.double fun v c => { c with tunnels := v },
    .optional "connections" Decoder.double fun v c => { c with connections := v }]

/-- The totals of a virtual domain. -/
structure SslStats where
  current : SslCounts := {}
  highest : SslCounts := {}
  deriving Inhabited

/-- How the totals of a virtual domain are read. -/
def SslStats.record : Record Json SslStats where
  name := "SslStats"
  blank := {}
  fields := [
    .optional "current" (Decoder.record SslCounts.record) fun v s => { s with current := v },
    .optional "max" (Decoder.record SslCounts.record) fun v s => { s with highest := v }]

/-- A session of a user. -/
structure SslSession where
  user : String := ""
  subsessions : List Json := []

/-- How a session is read. -/
def SslSession.record : Record Json SslSession where
  name := "SslSession"
  blank := {}
  fields := [
    .optional "user_name" Decoder.text fun v s => { s with user := v },
    .optional "subsessions" (Decoder.list Decoder.any) fun v s => { s with subsessions := v }]

namespace SslVpn

def users : Family := .gauge "fortigate_vpn_ssl_users"
  "Number of users connected to the SSL-VPN" ["vdom"]

def tunnels : Family := .gauge "fortigate_vpn_ssl_tunnels"
  "Number of active SSL-VPN tunnels" ["vdom"]

def connections : Family := .gauge "fortigate_vpn_ssl_connections"
  "Number of active SSL-VPN web connections" ["vdom"]

def highestUsers : Family := .gauge "fortigate_vpn_ssl_users_max"
  "Highest number of SSL-VPN users seen" ["vdom"]

def userSessions : Family := .gauge "fortigate_vpn_ssl_user_sessions"
  "Number of SSL-VPN sessions of a user" ["vdom", "user"]

def userTunnels : Family := .gauge "fortigate_vpn_ssl_user_tunnels"
  "Number of SSL-VPN tunnel subsessions of a user" ["vdom", "user"]

/-- What is reported about the totals of a virtual domain. -/
def measurements : List (Measurement SslStats) := [
  users.of (·.current.users),
  tunnels.of (·.current.tunnels),
  connections.of (·.current.connections),
  highestUsers.of (·.highest.users)]

/-- The samples of the totals of all virtual domains. -/
def statsSamples (envelopes : List (Envelope SslStats)) : List Sample :=
  envelopes.flatMap fun e => Measurement.samples measurements [e.vdom] e.results

/-- The number of subsessions of `sessions`. -/
def subsessionCount (sessions : List SslSession) : Nat :=
  sessions.foldl (fun n s => n + s.subsessions.length) 0

/-- The samples of the users with `sessions` in `vdom`, in the order of their names. -/
def domainSamples (vdom : String) (sessions : List SslSession) : List Sample :=
  (group (·.user) sessions).flatMap fun (user, own) => [
    userSessions.sample (Binary64.ofInt own.length) [vdom, user],
    userTunnels.sample (Binary64.ofInt (subsessionCount own)) [vdom, user]]

/-- The samples of the users of all virtual domains. -/
def sessionSamples (envelopes : List (Envelope (List SslSession))) : List Sample :=
  envelopes.flatMap fun e => domainSamples e.vdom e.results

/-- Reports totals and users. -/
def routine : Routine where
  name := "ssl_vpn"
  collect _ := do
    let stats ← Collection.fetch (Envelope.listDecoder (Decoder.record SslStats.record))
      "monitor/vpn/ssl/stats" everyDomain
    let sessions ← Collection.fetch
      (Envelope.listDecoder (Decoder.list (Decoder.record SslSession.record)))
      "monitor/vpn/ssl" everyDomain
    return statsSamples stats ++ sessionSamples sessions

end SslVpn
end FirewallProbe
