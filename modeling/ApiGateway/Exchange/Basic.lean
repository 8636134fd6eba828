import ApiGateway.Net.Ip
import ApiGateway.Balancer.Basic
import ApiGateway.Route.Table

/-!
# Exchanges

One request on its way through the gateway, together with everything that is found out about it:
the route, the claims of the caller, the request that goes to a backend, the backend on lease, and
the response. It also keeps what was asked of others on the way, in order.
-/

namespace ApiGateway

/-- Something that was asked of others. -/
inductive Contact
  /-- Who the caller is. -/
  | identity (policy : AuthenticationPolicy)
  /-- The answer of a backend. -/
  | backend (request : Request)

/-- A request on its way through the gateway. -/
structure Exchange where
  request : Request
  peer : SocketAddress
  requestId : String
  start : Instant
  resolved : Option ResolvedRoute := none
  /-- What the rate limiter tells the caller, whether the request is refused or not. -/
  advice : Headers := {}
  claims : Option Claims := none
  cacheKey : Option String := none
  outbound : Option Request := none
  lease : Option Lease := none
  backendResponse : Option Response := none
  response : Option Response := none
  servedFromCache : Bool := false
  errors : List GatewayError := []
  contacts : List Contact := []

namespace Exchange

/-- The address in front of the first comma of the first forwarding chain, if it can be read. -/
def forwardedIp? (h : Headers) : Option IpAddress := do
  let chain ← h.text? .forwardedFor
  let first ← (Text.splitAtChar ',' chain).head?
  IpAddress.read? (Text.trim first)

/-- The address of the caller as far as it is known. -/
def clientIp (x : Exchange) : IpAddress :=
  (forwardedIp? x.request.headers).getD x.peer.ip

/-- The refusal of a step that needs a route where none was found. -/
def withoutRoute : GatewayError := .internal "no downstream route in context"

def route (x : Exchange) : Except GatewayError ResolvedRoute :=
  match x.resolved with
  | some r => .ok r
  | none => .error withoutRoute

/-- The key of the route, empty before there is one. -/
def routeKey (x : Exchange) : String :=
  (x.resolved.map (·.route.key)).getD ""

/-- The claims of the caller; nothing is claimed where nobody was asked. -/
def callerClaims (x : Exchange) : Claims := x.claims.getD {}

def isRefused (x : Exchange) : Bool := ! x.errors.isEmpty

def refuse (x : Exchange) (e : GatewayError) : Exchange :=
  { x with errors := x.errors ++ [e] }

/-- The exchange with one more contact. -/
def contact (x : Exchange) (c : Contact) : Exchange :=
  { x with contacts := x.contacts ++ [c] }

/-- The response before anything is added: a refusal comes first. -/
def outcome (x : Exchange) : Response :=
  if x.isRefused then Response.ofErrors x.errors
  else
    match x.response with
    | some r => r
    | none => Response.ofErrors [.internal "pipeline produced no response"]

/-- Headers in which every given field replaces those of its name. -/
def overwrite (h : Headers) (fields : Headers) : Headers :=
  fields.fields.foldl (fun h f => h.set f.1 f.2) h

/-- The headers of a response with the advice of the rate limiter and the request identifier. -/
def decorate (x : Exchange) (r : Response) : Response :=
  let headers := overwrite r.headers x.advice
  match x.resolved.bind (·.route.requestIdKey) with
  | some key => { r with headers := headers.setText key x.requestId }
  | none => { r with headers }

end Exchange
end ApiGateway
