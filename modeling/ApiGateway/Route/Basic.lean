import ApiGateway.Balancer.Kind
import ApiGateway.Cache.Policy
import ApiGateway.Claims.Expression
import ApiGateway.Discovery.Service
import ApiGateway.Qos.Policy
import ApiGateway.RateLimit.Policy
import ApiGateway.Route.Substitution

/-!
# Routes

A route as the gateway works with it: its templates are read, its methods are normalised, and its
policies are made from their settings. Routes are known by a key made of their methods in order
and their upstream template.
-/

namespace ApiGateway

structure Route where
  key : String
  /-- The number of the table that the route belongs to; later tables have larger numbers. -/
  generation : Nat
  upstream : Template
  /-- No methods stand for all methods. -/
  methods : List Method
  downstreamTemplate : String
  downstreamScheme : String
  downstreamHosts : List Service
  serviceName : Option String
  balancerKind : Balancer.Kind
  downstreamMethod : Option Method
  rateLimit : Option RateLimit.Policy
  cache : Option Cache.Policy
  qos : Option Qos.Policy
  authentication : Option AuthenticationPolicy
  claimsRequirement : List (String × String)
  headersFromClaims : List ClaimsExpression
  queriesFromClaims : List ClaimsExpression
  requestIdKey : Option HeaderName
deriving DecidableEq

namespace Route

/-- The key of a route: its methods in order, or a star, and its template. -/
def keyOf (methods : List Method) (template : String) : String :=
  if methods.isEmpty then "*|" ++ template
  else
    String.intercalate "," ((methods.map (·.text)).mergeSort fun a b => decide (a ≤ b))
      ++ "|" ++ template

/-- Reads a method in any case, with blanks around it that do not count. -/
def parseMethod (s : String) : Except GatewayError Method :=
  match Method.ofText? (Text.asciiUpper (Text.trim s)) with
  | some m => .ok m
  | none => .error (.config s!"invalid http method '{s}'")

def parseHeaderName (s : String) : Except GatewayError HeaderName :=
  match HeaderName.ofText? s with
  | some n => .ok n
  | none => .error (.config s!"invalid header name '{s}'")

/-- The methods without those that came before. -/
def distinctMethods (methods : List Method) : List Method :=
  methods.foldl (fun ms m => if ms.contains m then ms else ms ++ [m]) []

/-- Expressions in the order of their keys. -/
def sortByKey (es : List ClaimsExpression) : List ClaimsExpression :=
  es.mergeSort fun a b => decide (a.key ≤ b.key)

/-- Checks that a downstream template has no more placeholders than the upstream one. -/
def checkPlaceholders (upstream downstream : Template) : Except GatewayError Unit :=
  let used := downstream.placeholders.length
  let captured := upstream.placeholders.length
  if captured < used then
    .error (.config
      (s!"downstream template '{downstream.text}' uses {used} placeholders "
        ++ s!"but upstream '{upstream.text}' only captures {captured}"))
  else .ok ()

/-- The kind of load balancer that a name stands for. -/
def parseKind (name : String) : Except GatewayError Balancer.Kind :=
  match Balancer.Kind.ofName? name with
  | some k => .ok k
  | none => .error (.config (Balancer.Kind.complaint name))

def compile (generation : Nat) (global : Config.Global) (c : Config.Route) :
    Except GatewayError Route := do
  let upstream ← Template.compile c.upstreamPathTemplate
  let downstream ← Template.compile c.downstreamPathTemplate
  checkPlaceholders upstream downstream
  let methods := distinctMethods (← c.upstreamHttpMethod.mapM parseMethod)
  let balancerKind ← parseKind c.loadBalancer
  let downstreamMethod ← c.downstreamHttpMethod.mapM parseMethod
  let rateLimit ← match c.rateLimit with
    | some l => RateLimit.Policy.ofConfig l global.rateLimit
    | none => pure none
  let headersFromClaims ← c.addHeaders.pairs.mapM fun p => do
    let _ ← parseHeaderName p.1
    ClaimsExpression.parse p.1 p.2
  let queriesFromClaims ← c.addQueries.pairs.mapM fun p => ClaimsExpression.parse p.1 p.2
  let requestIdKey ← (c.requestIdKey.or global.requestIdKey).mapM parseHeaderName
  return {
    key := keyOf methods c.upstreamPathTemplate
    generation
    upstream
    methods
    downstreamTemplate := c.downstreamPathTemplate
    downstreamScheme := c.downstreamScheme
    downstreamHosts := c.downstreamHosts.map Service.ofHostAndPort
    serviceName := c.serviceName
    balancerKind
    downstreamMethod
    rateLimit
    cache := c.cache.map fun k => Cache.Policy.ofConfig k methods c.upstreamPathTemplate
    qos := c.qos.map Qos.Policy.ofConfig
    authentication := c.authentication.map fun a => ⟨a.providerKey, a.allowedScopes⟩
    claimsRequirement := c.claimsRequirement.sorted
    headersFromClaims := sortByKey headersFromClaims
    queriesFromClaims := sortByKey queriesFromClaims
    requestIdKey }

/-- Whether a route takes a method, in any case. -/
def allows (r : Route) (m : Method) : Bool :=
  r.methods.isEmpty || r.methods.any fun n => Text.sameIgnoringCase n.text m.text

end Route
end ApiGateway
