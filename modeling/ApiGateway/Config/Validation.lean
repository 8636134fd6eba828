import ApiGateway.Balancer.Kind
import ApiGateway.Claims.Expression
import ApiGateway.Config.Basic
import ApiGateway.RateLimit.Period
import ApiGateway.Route.Template

/-!
# Validation

The rules that a configuration must keep before a gateway takes it. The rules are checked in a
fixed order, first those for the whole gateway and then those of every route in turn, and the
first rule that is broken is reported.
-/

namespace ApiGateway
namespace Config

/-- A rule for routes that is broken. -/
inductive RouteViolation
  | upstreamWithoutSlash
  | downstreamWithoutSlash (template : String)
  | downstreamWithScheme
  | upstreamTemplate (cause : GatewayError)
  | downstreamTemplate (cause : GatewayError)
  | invalidMethod (method : String)
  | invalidDownstreamMethod (method : String)
  | unknownScheme (scheme : String)
  | serviceWithoutDiscovery (service : String)
  | noBackends
  | unknownLoadBalancer (name : String)
  | period (cause : GatewayError)
  | zeroLimit
  | zeroQos
  | unknownQosScope
  | zeroTtl
  | emptyProviderKey
  | claimsExpression (cause : GatewayError)
  | invalidRequestIdKey (key : String)

def RouteViolation.message : RouteViolation → String
  | upstreamWithoutSlash => "upstream_path_template must start with '/'"
  | downstreamWithoutSlash t => s!"downstream_path_template '{t}' must start with '/'"
  | downstreamWithScheme => "downstream_path_template must not contain a scheme"
  | upstreamTemplate e => e.message
  | downstreamTemplate e => "downstream: " ++ e.message
  | invalidMethod m => s!"invalid http method '{m}'"
  | invalidDownstreamMethod m => s!"invalid downstream http method '{m}'"
  | unknownScheme s => s!"downstream_scheme must be http or https, got '{s}'"
  | serviceWithoutDiscovery s => s!"service_name '{s}' requires global.service_discovery"
  | noBackends => "needs downstream_host_and_ports or service_name"
  | unknownLoadBalancer l => s!"unknown load_balancer '{l}'"
  | period e => "rate_limit: " ++ e.message
  | zeroLimit => "rate_limit limit must be greater than 0"
  | zeroQos =>
      "qos needs exceptions_allowed_before_breaking and timeout_value_ms greater than 0"
  | unknownQosScope => "qos scope must be route or host"
  | zeroTtl => "cache ttl_seconds must be greater than 0"
  | emptyProviderKey => "authentication_provider_key is empty"
  | claimsExpression e => e.message
  | invalidRequestIdKey k => s!"request_id_key '{k}' is invalid"

/-- A rule that is broken. -/
inductive Violation
  | unknownDiscovery (provider : String)
  | invalidStatus (status : Nat)
  | invalidRequestIdKey (key : String)
  | route (template : String) (violation : RouteViolation)

def Violation.message : Violation → String
  | unknownDiscovery p => s!"unsupported service discovery provider '{p}'"
  | invalidStatus n => s!"rate_limit http_status_code {n} is not a valid status"
  | invalidRequestIdKey k => s!"request_id_key '{k}' is not a valid header name"
  | route t v => s!"route '{t}': {v.message}"

/-- Reports a broken rule unless the condition holds. -/
def require {ε : Type} (holds : Bool) (violation : ε) : Except ε Unit :=
  if holds then .ok () else .error violation

/-- Reports the cause of a failure as a broken rule. -/
def requireOk {ε α : Type} (r : Except GatewayError α) (violation : GatewayError → ε) :
    Except ε Unit :=
  match r with
  | .ok _ => .ok ()
  | .error e => .error (violation e)

/-- A text that is a method once its small letters are capitals. -/
def isMethod (s : String) : Bool :=
  (Method.ofText? (Text.asciiUpper s)).isSome

/-- A text that holds a scheme somewhere. -/
def containsScheme (s : String) : Bool :=
  1 < (Text.splitAtText "http://" s).length || 1 < (Text.splitAtText "https://" s).length

/-- Checks the rules on paths, methods and backends of a route. -/
def Route.validateAddressing (r : Route) (hasDiscovery : Bool) : Except RouteViolation Unit := do
  require (r.upstreamPathTemplate.startsWith "/") .upstreamWithoutSlash
  require (r.downstreamPathTemplate.startsWith "/")
    (.downstreamWithoutSlash r.downstreamPathTemplate)
  require (! containsScheme r.downstreamPathTemplate) .downstreamWithScheme
  requireOk (Template.compile r.upstreamPathTemplate) .upstreamTemplate
  requireOk (Template.compile r.downstreamPathTemplate) .downstreamTemplate
  r.upstreamHttpMethod.forM fun m => require (isMethod m) (.invalidMethod m)
  r.downstreamHttpMethod.forM fun m => require (isMethod m) (.invalidDownstreamMethod m)
  require (r.downstreamScheme = "http" || r.downstreamScheme = "https")
    (.unknownScheme r.downstreamScheme)
  match r.serviceName with
  | some s => require hasDiscovery (.serviceWithoutDiscovery s)
  | none => require (! r.downstreamHosts.isEmpty) .noBackends
  require (Balancer.Kind.ofName? r.loadBalancer).isSome (.unknownLoadBalancer r.loadBalancer)

/-- Checks the rules on the policies of a route. -/
def Route.validatePolicies (r : Route) : Except RouteViolation Unit := do
  r.rateLimit.forM fun l =>
    if l.enabled then do
      requireOk (RateLimit.parsePeriod l.period) .period
      require (l.limit ≠ 0) .zeroLimit
    else .ok ()
  r.qos.forM fun q => do
    require (q.exceptionsAllowed ≠ 0 && q.timeoutMs ≠ 0) .zeroQos
    require (q.scope = "route" || q.scope = "host") .unknownQosScope
  r.cache.forM fun c => require (c.ttlSeconds ≠ 0) .zeroTtl
  r.authentication.forM fun a =>
    require (! (Text.trim a.providerKey).isEmpty) .emptyProviderKey
  (r.addHeaders.pairs ++ r.addQueries.pairs).forM fun p =>
    requireOk (ClaimsExpression.parse p.1 p.2) .claimsExpression
  r.requestIdKey.forM fun k => require (HeaderName.ofText? k).isSome (.invalidRequestIdKey k)

def Route.validate (r : Route) (hasDiscovery : Bool) : Except RouteViolation Unit := do
  r.validateAddressing hasDiscovery
  r.validatePolicies

def Gateway.validate (c : Gateway) : Except Violation Unit := do
  c.global.serviceDiscovery.forM fun s =>
    require (s.provider = "consul") (.unknownDiscovery s.provider)
  require (Status.isValid c.global.rateLimit.statusCode.toNat)
    (.invalidStatus c.global.rateLimit.statusCode.toNat)
  c.global.requestIdKey.forM fun k =>
    require (HeaderName.ofText? k).isSome (.invalidRequestIdKey k)
  c.routes.forM fun r =>
    (r.validate c.global.serviceDiscovery.isSome).mapError (.route r.upstreamPathTemplate)

end Config
end ApiGateway
