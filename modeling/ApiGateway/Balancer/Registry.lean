import ApiGateway.Balancer.Basic
import ApiGateway.Route.Basic

/-!
# The load balancers of a gateway

One load balancer for each route key, made on first use, together with the number of the route
table that its route belongs to. A route of a newer table replaces it. A route of an older table,
which a request may still hold, gets a load balancer that is not registered.

Leases name a load balancer by its number, so that they can be given back also after it was
replaced.
-/

namespace ApiGateway

structure RegisteredBalancer where
  generation : Nat
  index : Nat
deriving DecidableEq

/-- All load balancers that were made, and which one is in charge of each route key. -/
structure BalancerRegistry where
  directory : ServiceDirectory
  balancers : Array Balancer := #[]
  registered : Std.ExtTreeMap String RegisteredBalancer compare := ∅

namespace BalancerRegistry

def size (r : BalancerRegistry) : Nat := r.registered.size

/-- Makes a load balancer for a route without registering it. -/
def build (r : BalancerRegistry) (route : Route) :
    Except GatewayError (BalancerRegistry × Nat) := do
  let source ← r.directory.source route.key route.serviceName route.downstreamHosts
  return ({ r with balancers := r.balancers.push ⟨source, .ofKind route.balancerKind⟩ },
    r.balancers.size)

def register (r : BalancerRegistry) (route : Route) :
    Except GatewayError (BalancerRegistry × Nat) := do
  let (r, i) ← r.build route
  return ({ r with registered := r.registered.insert route.key ⟨route.generation, i⟩ }, i)

/-- The registered load balancer of a route, if it was made for a route of the same table. -/
def lookUp? (r : BalancerRegistry) (route : Route) : Option Nat :=
  match r.registered[route.key]? with
  | none => none
  | some current =>
      if current.generation = route.generation then some current.index else none

/-- The load balancer of a route, made and registered where this is called for. -/
def enter (r : BalancerRegistry) (route : Route) : Except GatewayError (BalancerRegistry × Nat) :=
  match r.registered[route.key]? with
  | none => r.register route
  | some current =>
      if current.generation = route.generation then .ok (r, current.index)
      else if route.generation < current.generation then r.build route
      else r.register route

/-- The load balancer of a route: most often there is one, which only has to be looked up. -/
def get (r : BalancerRegistry) (route : Route) : Except GatewayError (BalancerRegistry × Nat) :=
  match r.lookUp? route with
  | some i => .ok (r, i)
  | none => r.enter route

def clear (r : BalancerRegistry) : BalancerRegistry :=
  { r with registered := ∅ }

/-- Takes another directory and forgets all load balancers of the former one. -/
def reset (r : BalancerRegistry) (directory : ServiceDirectory) : BalancerRegistry :=
  { r.clear with directory }

/-- Takes a backend on lease from a load balancer in a certain way. -/
def leaseBy (r : BalancerRegistry) (i : Nat)
    (take : Balancer → Balancer × Except GatewayError Service) :
    BalancerRegistry × Except GatewayError Lease :=
  match r.balancers[i]? with
  | none => (r, .error (.internal "no such load balancer"))
  | some b =>
      let (b, result) := take b
      ({ r with balancers := r.balancers.setIfInBounds i b },
        result.map fun service => ⟨i, b.rule.kind, service⟩)

def lease (r : BalancerRegistry) (i : Nat) (exchange : Consul.Exchange) (now : Instant) :
    BalancerRegistry × Except GatewayError Lease :=
  r.leaseBy i (·.lease exchange now)

/-- The lease that a load balancer begins, if it has to ask the registry for its backends. -/
def beginLease? (r : BalancerRegistry) (i : Nat) (now : Instant) : Option PendingLease := do
  let b ← r.balancers[i]?
  match b.source.beginRead now with
  | .ok _ => none
  | .error read => some ⟨i, read⟩

/-- Takes a backend on lease when the registry has answered. -/
def endLease (r : BalancerRegistry) (p : PendingLease) (exchange : Consul.Exchange)
    (now : Instant) : BalancerRegistry × Except GatewayError Lease :=
  r.leaseBy p.balancer (·.endLease p.read exchange now)

def release (r : BalancerRegistry) (l : Lease) : BalancerRegistry :=
  { r with balancers := r.balancers.modify l.balancer (·.release l.service.endpoint) }

/-- The calls in flight at an endpoint, where a load balancer counts them. -/
def inFlight? (r : BalancerRegistry) (i : Nat) (endpoint : String) : Option Nat := do
  let b ← r.balancers[i]?
  b.rule.inFlight? endpoint

end BalancerRegistry
end ApiGateway
