import ApiGateway.CommandLine
import ApiGateway.Gateway.Administration
import ApiGateway.Http.Body
import ApiGateway.Http.Wire
import ApiGateway.Metrics.Exposition
import ApiGateway.Run.Basic
import Std.Async
import Std.Sync.Mutex
import Std.Time

/-!
# The program

The gateway on the network. Everything that is decided is decided by the library; here it is given
the time, the random numbers and the bytes that arrive, and what it answers is sent.

All connections share one gateway behind a lock. A run takes the lock for one stage at a time, and
holds it neither while it waits for a backend nor while it asks the service registry.
-/

namespace ApiGateway

open Std.Async

/-- A gateway at work. -/
structure Site where
  gateway : Std.Mutex Gateway
  /-- The reading of the clock at the start. -/
  zero : Nat

namespace Site

/-- The time since the start. -/
def now (s : Site) : BaseIO Instant := return (← IO.monoNanosNow) - s.zero

/-- Does something to the gateway. -/
def update {α : Type} (s : Site) (f : Gateway → Gateway × α) : Async α :=
  s.gateway.atomically (m := Async) do
    let (g, a) := f (← get)
    set g
    return a

/-- What the gateway finds outside, given how the registry answers. -/
def surroundings (s : Site) (registry : Consul.Exchange) : Async Surroundings := do
  let wallClock ← Std.Time.Timestamp.now
  return {
    now := ← s.now
    wallClock := wallClock.toNanosecondsSinceUnixEpoch.val.toNat
    registry }

end Site

/-! ## Calls to others -/

/-- The address of a host and a port. -/
def resolveHost (host : String) (port : UInt16) : Async Std.Net.SocketAddress := do
  let bare := String.ofList (host.toList.filter fun c => c ≠ '[' && c ≠ ']')
  let address (a : Std.Net.IPAddr) : Std.Net.SocketAddress :=
    match a with
    | .v4 a => .v4 ⟨a, port⟩
    | .v6 a => .v6 ⟨a, port⟩
  match Std.Net.IPv4Addr.ofString bare, Std.Net.IPv6Addr.ofString bare with
  | some a, _ => return .v4 ⟨a, port⟩
  | none, some a => return .v6 ⟨a, port⟩
  | none, none =>
      match (← DNS.getAddrInfo bare "")[0]? with
      | some a => return address a
      | none => throw (IO.userError "no address")

/-- How many bytes are read at once. -/
def readSize : UInt64 := 65536

/-- Reads until a head is complete: the head and what came after it. -/
partial def readHead (c : TCP.Socket.Client) (buffer : Bytes) : Async (Option (Bytes × Bytes)) := do
  match Wire.splitHead? buffer with
  | some r => return some r
  | none =>
      match ← c.recv? readSize with
      | some data => readHead c (buffer ++ data.toList)
      | none => return none

/-- Reads until a body is complete or broken, or longer than it may be. -/
partial def readBody (c : TCP.Socket.Client) (framing : Wire.Framing) (limit : Nat)
    (pieces : List Bytes) (buffer : Bytes) (closed : Bool) : Async (ArrivingBody × Bytes) := do
  match Wire.takeBody framing pieces buffer closed with
  | .complete pieces rest => return (⟨pieces.reverse, false⟩, rest)
  | .broken pieces => return (⟨pieces.reverse, true⟩, [])
  | .more pieces buffer =>
      if limit < Wire.totalLength pieces then return (⟨pieces.reverse, true⟩, [])
      else
        match ← c.recv? readSize with
        | some data => readBody c framing limit pieces (buffer ++ data.toList) false
        | none => readBody c framing limit pieces buffer true

/-- The longest answer that is taken of others. -/
def maxAnswer : Nat := Nat.pow 2 40

def converse (host : String) (port : UInt16) (q : Request) (target : String) :
    Async (Except String Response) := do
  let c ← TCP.Socket.Client.mk
  try
    c.connect (← resolveHost host port)
  catch _ => return .error "client error (Connect)"
  try
    let headers := q.headers.setText ⟨"connection"⟩ "close"
    c.send ⟨(Wire.requestBytes { q with headers } target).toArray⟩
    let some (head, rest) ← readHead c [] | return .error "client error (SendRequest)"
    let some head := Wire.responseHead? head | return .error "client error (SendRequest)"
    let framing := Wire.responseFraming q.method head
    let (body, _) ← readBody c framing maxAnswer [] rest false
    if body.breaksOff then return .error "error reading a body from connection"
    else return .ok ⟨head.status, head.headers.erase Wire.transferEncoding, body.pieces.flatten⟩
  catch _ => return .error "client error (SendRequest)"

/-- The host and the port of an authority. -/
def hostAndPort (authority : String) : String × UInt16 :=
  match (Text.splitAtChar ':' authority).getLast?.bind (SocketAddress.number? 65535 ·.toList) with
  | some port =>
      (String.ofList (authority.toList.take
        (authority.toList.length - (toString port).length - 1)), UInt16.ofNat port)
  | none => (authority, 80)

/-- Calls a backend. Encrypted connections are not made. -/
def callBackend (q : Request) : Async (Except GatewayError Response) := do
  if q.uri.scheme ≠ some "http" then
    return .error (.downstreamTransport "client error (Connect)")
  let (host, port) := hostAndPort (q.uri.authority.getD "")
  let answer ← converse host port q q.sentTarget
  return answer.mapError .downstreamTransport

def askRegistry (q : Consul.Query) : Async Consul.Outcome := do
  match Uri.read q.url with
  | .error _ => return .error "builder error"
  | .ok uri =>
      let (host, port) := hostAndPort (uri.authority.getD "")
      let token := (q.token.bind HeaderValue.ofText?).toList.map fun v => (⟨"x-consul-token"⟩, v)
      let headers := (Headers.mk token).setText .host (uri.authority.getD "")
      let r : Request := ⟨.get, uri, headers, []⟩
      return (← converse host port r r.sentTarget).map fun a => (a.status, a.body)

/-- Asks the registry what a lease waits for. -/
def registryFor (query : Option Consul.Query) : Async Consul.Exchange := do
  match query with
  | some q =>
      let outcome ← askRegistry q
      return fun _ => outcome
  | none => return Consul.unreachable

/-! ## Runs -/

namespace Site

/-- Waits for a backend, as long as there is time. -/
def awaitBackend (s : Site) (r : Run) (c : BackendCall) :
    Async (Option (Except GatewayError Response)) := do
  match r.deadline? with
  | none => return some (← callBackend c.request)
  | some t =>
      let left := t - (← s.now)
      let call : Async (Option (Except GatewayError Response)) :=
        return some (← callBackend c.request)
      let timer : Async (Option (Except GatewayError Response)) := do
        sleep (.ofNat (Duration.millis (left + 999999)))
        return none
      Async.race call timer

/-- Brings a run to its end. -/
partial def pursue (s : Site) (r : Run) : Async Response := do
  match r.phase with
  | .ended response => return response
  | .calling c _ =>
      let answer ← s.awaitBackend r c
      let now ← s.now
      let r ← s.update fun g =>
        match answer with
        | some a => r.answer now g a
        | none => r.expire now g
      s.pursue r
  | .passing _ =>
      let around ← s.surroundings Consul.unreachable
      let begun ← s.update fun g =>
        match r.beginLease? around.now g with
        | some (g, p) => (g, Sum.inl (p, g.registryQuery? p))
        | none =>
            let (g, r) := r.step around g
            (g, Sum.inr r)
      match begun with
      | .inl (p, query) =>
          let around ← s.surroundings (← registryFor query)
          s.pursue (← s.update fun g => r.endLease around g p)
      | .inr r => s.pursue r

/-- The address of a caller. -/
def peerAddress (a : Std.Net.SocketAddress) : SocketAddress :=
  match a with
  | .v4 a =>
      let o := a.addr.octets
      ⟨.v4 o[0] o[1] o[2] o[3], a.port⟩
  | .v6 a => ⟨.v6 a.addr.segments.toList, a.port⟩

/-- A new request identifier: 16 random bytes in hexadecimal digits. -/
def newRequestId : IO String := return Bytes.toHex (← IO.getRandomBytes 16).toList

def answerCaller (s : Site) (peer : SocketAddress) (head : Wire.RequestHead) (body : ArrivingBody) :
    Async Response := do
  let limit ← s.update fun g => (g, g.config.global.maxBodyBytes.toNat)
  match body.read limit with
  | .error e => return Response.ofErrors [e]
  | .ok bytes =>
      let request : Request := ⟨head.method, head.uri, head.headers, bytes⟩
      s.pursue (Run.start request peer (← newRequestId) (← s.now))

def answerOperator (s : Site) (head : Wire.RequestHead) : Async Response :=
  s.update fun g => g.administer g.metrics.print head.method head.uri.path

/-! ## Connections -/

/-- Whether a connection stays open after a request. -/
def staysOpen (h : Headers) : Bool :=
  ! ((h.text? ⟨"connection"⟩).map fun v => Text.sameIgnoringCase v "close").getD false

/-- Serves the requests of a connection one after another. -/
partial def serve (s : Site) (c : TCP.Socket.Client)
    (answer : Wire.RequestHead → ArrivingBody → Async Response) (buffer : Bytes) : Async Unit := do
  let some (headBytes, rest) ← readHead c buffer | return ()
  let some head := Wire.requestHead? headBytes
    | c.send ⟨(Wire.responseBytes .get ⟨400, {}, []⟩).toArray⟩
  let some framing := Wire.requestFraming? head.headers
    | c.send ⟨(Wire.responseBytes .get ⟨400, {}, []⟩).toArray⟩
  let limit ← s.update fun g => (g, g.config.global.maxBodyBytes.toNat)
  let (body, rest) ← readBody c framing limit [] rest false
  let response ← answer head body
  c.send ⟨(Wire.responseBytes head.method response).toArray⟩
  if staysOpen head.headers ∧ ! body.breaksOff then s.serve c answer rest

/-- Accepts connections for as long as the program runs. -/
partial def accept (s : Site) (socket : TCP.Socket.Server) (counted : Bool)
    (answer : SocketAddress → Wire.RequestHead → ArrivingBody → Async Response) : Async Unit := do
  let c ← socket.accept
  let peer := peerAddress (← c.getPeerName)
  let active (g : Gateway) (change : Float) : Gateway :=
    let series : Metrics.Series := ⟨"gateway_connections_active", []⟩
    let n := (g.metrics.gauges.lookup series).getD 0 + change
    { g with metrics := g.metrics.set series n }
  if counted then
    s.update fun g =>
      (active { g with metrics :=
        g.metrics.count "gateway_connections_total" [("status", "accepted")] } 1, ())
  background do
    try
      s.serve c (answer peer) []
      c.shutdown
    catch _ => pure ()
    if counted then s.update fun g => (active g (-1), ())
  s.accept socket counted answer

def openListener (address : String) : IO TCP.Socket.Server := do
  let some a := SocketAddress.read? address
    | throw (IO.userError "invalid socket address syntax")
  let native : Std.Net.SocketAddress := match a.ip with
    | .v4 x y z w => .v4 ⟨⟨#v[x, y, z, w]⟩, a.port⟩
    | .v6 gs => .v6 ⟨⟨Vector.ofFn fun (i : Fin 8) => gs.getD i 0⟩, a.port⟩
  let socket ← TCP.Socket.Server.mk
  socket.bind native
  socket.listen 1024
  return socket

/-! ## Upkeep -/

/-- Sweeps the counters and the cache whenever that is due. -/
partial def upkeep (s : Site) (before : Instant) : Async Unit := do
  sleep (.ofNat (Duration.millis (Gateway.nextSweep before - before + 999999)))
  let now ← s.now
  s.update fun g => (g.sweep before now, ())
  s.upkeep now

end Site

/-- Loads the configuration of a file; there may be no such file. -/
def loadConfig (path : String) : IO (Except Config.Fault Config.Gateway) := do
  let content ← try some <$> IO.FS.readBinFile path catch _ => pure none
  let names := ["SLUICE_REQUEST_ID_KEY", "SLUICE_MAX_BODY_BYTES", "SLUICE_CONSUL_ADDRESS",
    "SLUICE_CONSUL_TOKEN", "SLUICE_CONSUL_DATACENTER", "SLUICE_RATE_LIMIT_CLIENT_ID_HEADER",
    "SLUICE_RATE_LIMIT_DISABLE_HEADERS"]
  let env ← names.mapM fun n => return (n, ← IO.getEnv n)
  return Config.load path (content.map (·.toList)) fun n => (env.lookup n).join

namespace Site

/-- Takes the configuration anew whenever the program is told to by a hangup. -/
partial def reloadOnHangup (s : Site) (path : String) (waiter : Signal.Waiter) : Async Unit := do
  let _ ← await (← waiter.wait)
  match ← loadConfig path with
  | .error f => IO.eprintln s!"config: reload failed, keeping current routes, error={f.message}"
  | .ok c =>
      match ← s.update fun g => g.reload c with
      | .error f => IO.eprintln s!"config: reload failed, keeping current routes, error={f.message}"
      | .ok () => pure ()
  s.reloadOnHangup path waiter

/-- Waits until the program is told to end. -/
def untilStopped : Async Unit := do
  let interrupted ← Signal.Waiter.mk .sigint false
  let terminated ← Signal.Waiter.mk .sigterm false
  let one (w : Signal.Waiter) : Async Unit := do
    let _ ← await (← w.wait)
  Async.race (one interrupted) (one terminated)

end Site

def runGateway (o : Options) : IO UInt32 := do
  match ← loadConfig o.config with
  | .error f =>
      IO.eprintln s!"Error: {f.message}"
      return 1
  | .ok c =>
      match Gateway.ofConfig c with
      | .error e =>
          IO.eprintln s!"Error: {e.message}"
          return 1
      | .ok g =>
          let s : Site := ⟨← Std.Mutex.new g, ← IO.monoNanosNow⟩
          let proxy ← Site.openListener o.listen
          let admin ← Site.openListener o.adminListen
          let work : Async Unit := do
            background (s.upkeep 0)
            background (s.reloadOnHangup o.config (← Signal.Waiter.mk .sighup true))
            background (s.accept admin false fun _ head _ => s.answerOperator head)
            background (s.accept proxy true s.answerCaller)
            Site.untilStopped
          work.block
          return 0

end ApiGateway

open ApiGateway in
def main (args : List String) : IO UInt32 := do
  if args.contains "-h" ∨ args.contains "--help" then
    IO.println Options.usage
    return 0
  match Options.ofArguments args with
  | .error complaint =>
      IO.eprintln s!"error: {complaint}"
      return 2
  | .ok o => runGateway o
