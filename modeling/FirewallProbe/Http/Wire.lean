import FirewallProbe.Client
import FirewallProbe.Http.Message
import FirewallProbe.SocketAddress
import FirewallProbe.Text.LossyUtf8

/-! # HTTP messages on the wire

Requests and answers as the bytes of a connection that carries one message each way. -/

namespace FirewallProbe.Wire

/-- The line end of message heads. -/
def lineEnd : String := "\r\n"

/-- The words that go with a `status`. -/
def reason (status : Nat) : String :=
  if status = 200 then "OK"
  else if status = 400 then "Bad Request"
  else if status = 401 then "Unauthorized"
  else if status = 404 then "Not Found"
  else if status = 405 then "Method Not Allowed"
  else "Internal Server Error"

/-- A header line. -/
def header (name value : String) : String := s!"{name}: {value}{lineEnd}"

/-- A header line that may be missing. -/
def optionalHeader (name : String) (value : Option String) : String :=
  (value.map (header name)).getD ""

/-- An answer of the exporter. -/
def response (r : HttpResponse) : String :=
  s!"HTTP/1.1 {r.status} {reason r.status}{lineEnd}" ++
    optionalHeader "content-type" r.contentType ++ optionalHeader "allow" r.allow ++
    header "access-control-allow-origin" HttpResponse.allowedOrigin ++
    header "content-length" (toString r.body.utf8ByteSize) ++ header "connection" "close" ++
    lineEnd ++ r.body

/-- The request that a message `head` opens with. -/
def request? (head : String) : Option HttpRequest :=
  match ((head.splitOn lineEnd).headD "").splitOn " " with
  | [method, url, _] => some (.ofUrl method url)
  | _ => none

/-- Whether `bytes` hold a whole message head. -/
def hasHead (bytes : List UInt8) : Bool :=
  match bytes with
  | 13 :: 10 :: 13 :: 10 :: _ => true
  | _ :: rest => hasHead rest
  | [] => false

/-- A device that is reached without encryption at a numeric address. -/
structure Place where
  address : SocketAddress
  host : String
  path : String

/-- The place of a `url`, if it is one without encryption at a numeric address. -/
def place? (url : String) : Option Place :=
  match url.splitOn "http://" with
  | ["", rest] =>
    let parts := rest.splitOn "/"
    let host := parts.headD ""
    let path := "/" ++ "/".intercalate (parts.drop 1)
    match (SocketAddress.parse? host).or (SocketAddress.parse? (host ++ ":80")) with
    | some address => some ⟨address, host, path⟩
    | none => none
  | _ => none

/-- The request `r` as it is sent to a `place`. -/
def deviceRequest (place : Place) (r : DeviceRequest) : String :=
  s!"GET {place.path} HTTP/1.0{lineEnd}" ++ header "host" place.host ++
    header "authorization" r.authorization ++ header "accept" r.accept ++ lineEnd

/-- The reply of a device, read off all `bytes` of it. -/
def reply? (bytes : List UInt8) : Option DeviceReply :=
  let message := String.ofList (Text.decodeLossy bytes)
  match message.splitOn (lineEnd ++ lineEnd) with
  | head :: body =>
    match ((head.splitOn lineEnd).headD "").splitOn " " with
    | _ :: status :: _ =>
      status.toNat?.map fun status => ⟨status, (lineEnd ++ lineEnd).intercalate body⟩
    | _ => none
  | [] => none

end FirewallProbe.Wire
