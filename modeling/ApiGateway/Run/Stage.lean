import ApiGateway.Exchange.Outbound
import ApiGateway.Gateway.Basic
import ApiGateway.Qos.Guard

/-!
# Stages

The steps that an exchange passes one after another, and what comes of one of them: the exchange
goes on, or a response is ready, or the request is refused, or the exchange waits for a backend.

A stage may change the gateway and the exchange whatever comes of it. What it finds outside the
gateway is given to it: the time, who vouches for callers, and the service registry.
-/

namespace ApiGateway

/-- A step of the way through the gateway. -/
inductive Stage
  | routeResolution
  | rateLimit
  | authentication
  | authorisation
  | cacheLookup
  | requestConstruction
  | lease
  | backendCall
  | responseMapping
  | cacheStore
  | release
deriving DecidableEq

namespace Stage

/-- All stages in the order in which a gateway uses them. -/
def standard : List Stage :=
  [routeResolution, rateLimit, authentication, authorisation, cacheLookup, requestConstruction,
    lease, backendCall, responseMapping, cacheStore, release]

def name : Stage → String
  | routeResolution => "route_resolution"
  | rateLimit => "rate_limit"
  | authentication => "authentication"
  | authorisation => "authorisation"
  | cacheLookup => "cache_lookup"
  | requestConstruction => "request_construction"
  | lease => "load_balancer_lease"
  | backendCall => "downstream"
  | responseMapping => "response_mapping"
  | cacheStore => "cache_store"
  | release => "load_balancer_release"

def ofName? (s : String) : Option Stage :=
  standard.find? (·.name = s)

/-- The shown form of a row of stages. -/
def printAll (stages : List Stage) : String :=
  "Pipeline \x7b stages: [" ++ String.intercalate ", " (stages.map name) ++ "] \x7d"

end Stage

/-- What a gateway finds outside. -/
structure Surroundings where
  now : Instant
  /-- The time since the beginning of 1970, for the advice to callers. -/
  wallClock : Duration := 0
  identify : AuthenticationPolicy → Headers → Except GatewayError Claims :=
    fun p _ => p.noProvider
  registry : Consul.Exchange := Consul.unreachable

/-- A call of a backend that is not over. -/
structure BackendCall where
  request : Request
  /-- The name of its breaker, empty if it has none. -/
  scope : String
  guard : Option Qos.Guard

/-- What comes of a stage. -/
inductive Verdict
  | proceed
  | respond
  | refuse (cause : GatewayError)
  | await (call : BackendCall)

/-- What a stage leaves behind. -/
structure Passage where
  gateway : Gateway
  exchange : Exchange
  verdict : Verdict

namespace Passage

/-- The exchange goes on. -/
def proceed (g : Gateway) (x : Exchange) : Passage := ⟨g, x, .proceed⟩

/-- The request is refused. -/
def refuse (g : Gateway) (x : Exchange) (e : GatewayError) : Passage := ⟨g, x, .refuse e⟩

/-- A stage that needs the route. -/
def onRoute (g : Gateway) (x : Exchange) (stage : ResolvedRoute → Passage) : Passage :=
  match x.route with
  | .ok r => stage r
  | .error e => refuse g x e

end Passage

/-- Counts an event of a route. -/
def Gateway.countFor (g : Gateway) (name routeKey : String) : Gateway :=
  { g with metrics := g.metrics.count name [("route", routeKey)] }

end ApiGateway
