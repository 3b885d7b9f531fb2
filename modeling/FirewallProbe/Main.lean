import Std.Async.TCP
import FirewallProbe.Http.Wire
import FirewallProbe.Log
import FirewallProbe.Server

/-! # The exporter as a program

`--config FILE` names the configuration, `--listen ADDRESS` and `--log-level LEVEL` replace settings
of it.  The program answers one connection after the other.  Devices are asked without encryption at
numeric addresses; any other URL counts as a failed transport. -/

namespace FirewallProbe
namespace Program

open Std.Async Std.Async.TCP

/-- What the command line asks for. -/
structure Arguments where
  config : Option String := none
  listen : Option String := none
  level : Option String := none

/-- Reads the command line, with what was `found` on it so far. -/
def Arguments.ofList (found : Arguments) : List String → Except String Arguments
  | [] => .ok found
  | "--config" :: value :: rest => Arguments.ofList { found with config := some value } rest
  | "-c" :: value :: rest => Arguments.ofList { found with config := some value } rest
  | "--listen" :: value :: rest => Arguments.ofList { found with listen := some value } rest
  | "--log-level" :: value :: rest => Arguments.ofList { found with level := some value } rest
  | other :: _ => .error s!"unexpected argument '{other}'"

/-- The configuration `c` with the settings of the command line. -/
def Arguments.override (a : Arguments) (c : Config) : Config :=
  { c with
    server := { c.server with listen := a.listen.getD c.server.listen }
    logging := { c.logging with level := a.level.getD c.logging.level } }

/-- Writes an event to the log. -/
def log (c : Config) (e : Event) : IO Unit :=
  if e.isShown c.logging then IO.eprintln (e.line c.logging) else pure ()

/-- The time since some fixed point. -/
def now : IO Duration := do return .of 0 (← IO.monoNanosNow)

/-- An address as the sockets take it. -/
def socketAddress : SocketAddress → Std.Net.SocketAddress
  | .v4 bytes port =>
    let at' (i : Nat) := UInt8.ofNat (bytes.getD i 0)
    .v4 ⟨⟨#v[at' 0, at' 1, at' 2, at' 3]⟩, UInt16.ofNat port⟩
  | .v6 groups _ port =>
    let at' (i : Nat) := UInt16.ofNat (groups.getD i 0)
    .v6 ⟨⟨#v[at' 0, at' 1, at' 2, at' 3, at' 4, at' 5, at' 6, at' 7]⟩, UInt16.ofNat port⟩

/-- Reads from a connection until enough has come or it ends. -/
partial def receive (client : Socket.Client) (isEnough : List UInt8 → Bool)
    (bytes : ByteArray) : IO ByteArray := do
  if isEnough bytes.toList then return bytes
  match ← (client.recv? 65536).block with
  | none => return bytes
  | some more => receive client isEnough (bytes ++ more)

/-- Asks a device. -/
def exchange (r : DeviceRequest) : IO (Except TransportFault DeviceReply) := do
  match Wire.place? r.url with
  | none => return .error (.failed "unsupported URL")
  | some place =>
    try
      let client ← Socket.Client.mk
      (client.connect (socketAddress place.address)).block
      (client.send (Wire.deviceRequest place r).toUTF8).block
      let bytes ← receive client (fun _ => false) ByteArray.empty
      match Wire.reply? bytes.toList with
      | some reply => return .ok reply
      | none => return .error (.failed "connection closed before message completed")
    catch e => return .error (.failed (toString e))

/-- Asks for the endpoint `e` before the deadline of a probe that `started` then. -/
def ask (plan : ProbePlan) (started : Duration) (e : Endpoint) : IO Answer := do
  let remaining := plan.timeout.minus ((← now).minus started)
  if remaining.isZero then return .error (.timeout e.path)
  return Client.answerOf e.path (← exchange (plan.client.request e remaining))

/-- Makes a probe. -/
def probe (c : Config) (plan : ProbePlan) : IO ProbeRun := do
  let started ← now
  let report ← (scrape plan.options).interpret (ask plan started) (log c)
  let elapsed := (← now).minus started
  let run : ProbeRun := ⟨.reported report (plan.timeout.minus elapsed).isZero, elapsed⟩
  log c run.finishedEvent
  return run

/-- Answers a request; without deadlines there is no answer. -/
def answer (c : Config) (t : Telemetry) (r : HttpRequest) :
    IO (Option HttpResponse × Telemetry) := do
  match Server.route c r with
  | .reply response => return (some (Server.sent r response), t)
  | .showMetrics => return (some (Server.sent r (Server.metricsResponse t)), t)
  | .probe plan =>
    let started ← now
    match Deadlines.of? ⟨started.seconds, started.nanoseconds, started.nanoseconds_lt⟩
        plan.timeout with
    | none => return (none, t.steps [.start, .drop])
    | some _ =>
      let run ← probe c plan
      let rendered := run.exposition
      rendered.events.forM (log c)
      return (some (Server.sent r (Server.probeResponse run)), t.steps [.start, .finish run])

/-- Answers the request of one connection. -/
def serveConnection (c : Config) (t : Telemetry) (client : Socket.Client) : IO Telemetry := do
  let bytes ← receive client Wire.hasHead ByteArray.empty
  match Wire.request? (String.ofList (Text.decodeLossy bytes.toList)) with
  | none => return t
  | some r =>
    let (response, t) ← answer c t r
    match response with
    | none => return t
    | some response =>
      (client.send (Wire.response response).toUTF8).block
      client.shutdown.block
      return t

/-- Answers connections one after the other. -/
partial def serve (c : Config) (server : Socket.Server) (t : Telemetry) : IO Unit := do
  let client ← server.accept.block
  let t ← try serveConnection c t client catch _ => pure t
  serve c server t

/-- Reads the configuration that the command line names. -/
def loadConfig (a : Arguments) : IO (Except ConfigError Config) := do
  match a.config with
  | none => return .ok {}
  | some path =>
    let bytes ← try some <$> IO.FS.readBinFile path catch _ => pure none
    return Config.ofFile bytes

/-- Starts the exporter. -/
def run (c : Config) : IO UInt32 := do
  match c.server.listenAddress with
  | .error fault =>
    IO.eprintln s!"Error: {(ConfigError.invalid fault).message}"
    return 1
  | .ok address =>
    let server ← Socket.Server.mk
    server.bind (socketAddress address)
    server.listen 128
    log c ⟨.info, "HTTP server listening", [("addr", address.toText),
      ("probe_path", c.server.probePath), ("targets", toString c.targets.size)]⟩
    serve c server {}
    return 0

end Program
end FirewallProbe

open FirewallProbe in
/-- Starts the exporter with the settings of the command line. -/
def main (arguments : List String) : IO UInt32 := do
  match Program.Arguments.ofList {} arguments with
  | .error message =>
    IO.eprintln s!"error: {message}"
    return 2
  | .ok parsed =>
    match ← Program.loadConfig parsed with
    | .error e =>
      IO.eprintln s!"Error: {e.message}"
      return 1
    | .ok c => Program.run (parsed.override c)
