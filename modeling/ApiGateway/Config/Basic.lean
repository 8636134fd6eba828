import ApiGateway.Text.Dictionary

/-!
# Configuration

What an operator writes down: settings for the whole gateway, and routes in the order in which
they are tried. Numbers have the widths that the written form allows.
-/

namespace ApiGateway
namespace Config

/-- Where services are looked up. -/
structure ServiceDiscovery where
  provider : String := "consul"
  address : String := "http://127.0.0.1:8500"
  datacenter : Option String := none
  token : Option String := none
  pollIntervalSecs : UInt64 := 1
deriving DecidableEq

/-- Settings for all routes that limit their callers. -/
structure RateLimitGlobal where
  clientIdHeader : String := "ClientId"
  quotaExceededMessage : Option String := none
  counterPrefix : String := "sluice"
  disableHeaders : Bool := false
  statusCode : UInt16 := 429
deriving DecidableEq

/-- Settings for connections to backends. -/
structure Downstream where
  connectTimeoutSecs : UInt64 := 5
  poolIdleTimeoutSecs : UInt64 := 60
  poolMaxIdlePerHost : UInt64 := 64
  acceptInvalidCerts : Bool := false
deriving DecidableEq

/-- Settings for the whole gateway. -/
structure Global where
  requestIdKey : Option String := none
  maxBodyBytes : UInt64 := 10485760
  serviceDiscovery : Option ServiceDiscovery := none
  rateLimit : RateLimitGlobal := {}
  downstream : Downstream := {}
deriving DecidableEq

/-- A backend in a list of backends. -/
structure HostAndPort where
  host : String
  port : UInt16
deriving DecidableEq

/-- How the callers of a route are limited. -/
structure RateLimit where
  enabled : Bool := true
  clientWhitelist : List String := []
  period : String
  limit : UInt64
deriving DecidableEq

/-- How the answers of a route are cached. -/
structure Cache where
  ttlSeconds : UInt64
  region : Option String := none
  hashBody : Bool := false
deriving DecidableEq

/-- When a route gives up on its backends. -/
structure Qos where
  exceptionsAllowed : UInt32
  breakMs : UInt64 := 5000
  timeoutMs : UInt64
  halfOpenTrials : UInt32 := 1
  failureWindowMs : UInt64 := 60000
  scope : String := "route"
deriving DecidableEq

/-- How the callers of a route are authenticated. -/
structure Authentication where
  providerKey : String
  allowedScopes : List String := []
deriving DecidableEq

/-- A route from a path of the gateway to a path of its backends. -/
structure Route where
  upstreamPathTemplate : String
  upstreamHttpMethod : List String := []
  downstreamPathTemplate : String
  downstreamScheme : String := "http"
  downstreamHosts : List HostAndPort := []
  serviceName : Option String := none
  loadBalancer : String := "RoundRobin"
  downstreamHttpMethod : Option String := none
  rateLimit : Option RateLimit := none
  cache : Option Cache := none
  qos : Option Qos := none
  authentication : Option Authentication := none
  claimsRequirement : Dictionary := .empty
  addHeaders : Dictionary := .empty
  addQueries : Dictionary := .empty
  requestIdKey : Option String := none
deriving DecidableEq

structure Gateway where
  global : Global := {}
  routes : List Route := []
deriving DecidableEq

end Config
end ApiGateway
