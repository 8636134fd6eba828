import ApiGateway.Exchange.Target

/-!
# The request to the backend

What a backend receives: the inbound request without the fields that belong to one connection,
with a record of where it came from, with the claims that the route passes on, and with a request
identifier. It is addressed to the chosen backend only when that is on lease.
-/

namespace ApiGateway

/-- The fields that belong to one connection and are never passed on. -/
def HeaderName.hopByHop : List HeaderName :=
  [⟨"connection"⟩, ⟨"keep-alive"⟩, ⟨"proxy-authenticate"⟩, ⟨"proxy-authorization"⟩, ⟨"te"⟩,
    ⟨"trailers"⟩, ⟨"transfer-encoding"⟩, ⟨"upgrade"⟩]

namespace Headers

/-- Removes the fields that belong to one connection. -/
def withoutHops (h : Headers) : Headers :=
  HeaderName.hopByHop.foldl (fun h n => h.erase n) h

/-- Puts an address at the end of the forwarding chain. -/
def extendChain (h : Headers) (ip : String) : Headers :=
  match h.text? .forwardedFor with
  | some chain => h.setText .forwardedFor (chain ++ ", " ++ ip)
  | none => h.setText .forwardedFor ip

/-- Records the protocol of the inbound request unless an earlier gateway did. -/
def defaultProto (h : Headers) : Headers :=
  if h.contains .forwardedProto then h else h.setText .forwardedProto "http"

/-- Records the host that the inbound request was sent to. -/
def recordHost (h : Headers) (host : String) : Headers :=
  if host.isEmpty then h else h.setText .forwardedHost host

/-- Records where a request came from. -/
def addOrigin (h : Headers) (peer : IpAddress) (host : String) : Headers :=
  (((h.extendChain peer.print).defaultProto).recordHost host).setText .realIp peer.print

/-- Passes on a claim under the key of an expression. -/
def addClaim (claims : Claims) (h : Headers) (e : ClaimsExpression) :
    Except GatewayError Headers := do
  let value ← e.extract claims
  match HeaderName.ofText? e.key, HeaderValue.ofText? value with
  | none, _ => .error (.internal s!"header '{e.key}': {HeaderName.complaint}")
  | some _, none => .error (.internal s!"header '{e.key}': {HeaderValue.complaint}")
  | some n, some v => .ok (h.set n v)

/-- Adds a request identifier unless the caller sent one. -/
def addRequestId (h : Headers) (key : Option HeaderName) (id : String) : Headers :=
  match key with
  | some k => if h.contains k then h else h.setText k id
  | none => h

end Headers

namespace Exchange

def outboundHeaders (x : Exchange) (r : Route) : Except GatewayError Headers := do
  let inbound := x.request.headers
  let host := (inbound.text? .host).getD ""
  let h := ((inbound.withoutHops).erase .host).addOrigin x.peer.ip host
  let h ← r.headersFromClaims.foldlM (Headers.addClaim x.callerClaims) h
  return h.addRequestId r.requestIdKey x.requestId

/-- The request to the backend, which is not addressed yet. -/
def buildOutbound (x : Exchange) : Except GatewayError Request := do
  let r ← x.route
  let target ← x.target
  let headers ← x.outboundHeaders r.route
  match Uri.read target with
  | .error f => .error (.internal s!"downstream uri '{target}': {f.message}")
  | .ok uri =>
      return ⟨r.route.downstreamMethod.getD x.request.method, uri, headers, x.request.body⟩

end Exchange

namespace Request

/-- The path and the query as they are sent; a target without a path is sent as the root path. -/
def sentTarget (q : Request) : String :=
  match q.uri.pathAndQuery with
  | some pq => pq.text
  | none => "/"

/-- The request addressed to an endpoint. -/
def sendTo (q : Request) (scheme endpoint : String) : Except GatewayError Request :=
  match Uri.read (scheme ++ "://" ++ endpoint ++ q.sentTarget) with
  | .error f => .error (.internal s!"downstream uri: {f.message}")
  | .ok uri => .ok { q with uri, headers := q.headers.setText .host endpoint }

end Request
end ApiGateway
