import ApiGateway.Run.Stage

/-!
# Use of a backend

A backend is taken on lease and the request is addressed to it; then it is called under the guard
of a breaker, and its answer becomes the response. The lease is given back whatever happens. To take
a lease has two parts where the registry is asked for the backends.

A call has two parts, since other exchanges go on while it waits. It begins when the breaker lets
it pass, and it ends once: with an answer, with a failure on the way, when its time is over, or
when the caller goes away.
-/

namespace ApiGateway

namespace Gateway

/-- Gives a lease back. -/
def giveBack (g : Gateway) (l : Option Lease) : Gateway :=
  match l with
  | some l => { g with balancers := g.balancers.release l }
  | none => g

/-- Takes note of how many backends the registry has just told. -/
def countDiscovered (g : Gateway) (balancer : Nat) (now : Instant) : Gateway :=
  match (g.balancers.balancers[balancer]?).bind (·.source.fetchedAt? now) with
  | some (service, n) =>
      { g with metrics :=
        g.metrics.set ⟨"gateway_discovered_nodes", [("service", service)]⟩ (Float.ofNat n) }
  | none => g

def countLease (g : Gateway) (routeKey endpoint : String) : Gateway :=
  { g with metrics :=
    g.metrics.count "gateway_lb_leases_total" [("route", routeKey), ("endpoint", endpoint)] }

/-- Takes a backend of a route on lease. -/
def takeLease (s : Surroundings) (g : Gateway) (r : Route) :
    Gateway × Except GatewayError Lease :=
  match g.balancers.get r with
  | .error e => (g, .error e)
  | .ok (balancers, i) =>
      let (balancers, result) := balancers.lease i s.registry s.now
      ((({ g with balancers } : Gateway).countDiscovered i s.now), result)

/-- Begins to take a backend of a route on lease, if the registry has to be asked for it. -/
def beginLease? (now : Instant) (g : Gateway) (r : Route) : Option (Gateway × PendingLease) :=
  match g.balancers.get r with
  | .error _ => none
  | .ok (balancers, i) => (balancers.beginLease? i now).map fun p => ({ g with balancers }, p)

/-- The query that is sent to the registry for a lease. -/
def registryQuery? (g : Gateway) (p : PendingLease) : Option Consul.Query :=
  (g.balancers.balancers[p.balancer]?).bind (·.source.query?)

/-- Takes a backend on lease when the registry has answered. -/
def endLease (s : Surroundings) (g : Gateway) (p : PendingLease) :
    Gateway × Except GatewayError Lease :=
  let (balancers, result) := g.balancers.endLease p s.registry s.now
  ((({ g with balancers } : Gateway).countDiscovered p.balancer s.now), result)

end Gateway

namespace Stage

open Passage

/-- Addresses the request to a backend on lease; if that fails, the backend is given back. -/
def address (g : Gateway) (x : Exchange) (r : Route) (l : Lease) : Passage :=
  match x.outbound with
  | none => refuse (g.giveBack (some l)) x (.internal "no downstream request to address")
  | some q =>
      match q.sendTo r.downstreamScheme l.service.endpoint with
      | .error e => refuse (g.giveBack (some l)) x e
      | .ok q => proceed (g.giveBack x.lease) { x with outbound := some q, lease := some l }

/-- Addresses the request to a backend that was taken on lease, if one was. -/
def useLease (x : Exchange) (r : Route) (taken : Gateway × Except GatewayError Lease) : Passage :=
  match taken with
  | (g, .error e) => refuse g x e
  | (g, .ok l) => address (g.countLease r.key l.service.endpoint) x r l

/-- Takes a backend on lease and addresses the request to it. -/
def takeLease (s : Surroundings) (g : Gateway) (x : Exchange) : Passage :=
  onRoute g x fun r => useLease x r.route (g.takeLease s r.route)

/-- The same when the registry has answered, if it was asked for the lease. -/
def endLease (s : Surroundings) (g : Gateway) (x : Exchange) (p : PendingLease) : Passage :=
  onRoute g x fun r => useLease x r.route (g.endLease s p)

/-- Begins the call of the backend. -/
def beginCall (s : Surroundings) (g : Gateway) (x : Exchange) : Passage :=
  onRoute g x fun r =>
    match x.lease, x.outbound with
    | none, _ => refuse g x (.internal "downstream call without a lease")
    | some _, none => refuse g x (.internal "no downstream request")
    | some l, some q =>
        let scope := (r.route.qos.map (·.scopeKey r.route.key l.service.endpoint)).getD ""
        let x := { x with outbound := none }
        match Qos.enter g.breakers r.route.qos scope s.now with
        | (breakers, .error e) =>
            let metrics :=
              g.metrics.count "gateway_circuit_breaker_rejected_total" [("scope", scope)]
            refuse { g with breakers, metrics } x e
        | (breakers, .ok guard) =>
            ⟨{ g with breakers }, x.contact (.backend q), .await ⟨q, scope, guard⟩⟩

/-- Ends the call of a backend with its answer, or with the cause for which there is none. -/
def endCall (now : Instant) (g : Gateway) (x : Exchange) (c : BackendCall)
    (answer : Except GatewayError Response) : Passage :=
  let (breakers, opened) := Qos.leave g.breakers c.guard answer.isOk now
  let metrics :=
    if opened then g.metrics.count "gateway_circuit_breaker_opened_total" [("scope", c.scope)]
    else g.metrics
  let g := { g with breakers, metrics }
  match answer with
  | .ok r => proceed g { x with backendResponse := some r }
  | .error e => refuse g x e

/-- Ends the call of a backend whose time is over. -/
def timeOut (now : Instant) (g : Gateway) (x : Exchange) (c : BackendCall) : Passage :=
  endCall now (g.countFor "gateway_downstream_timeouts_total" x.routeKey) x c
    (.error .downstreamTimeout)

def mapResponse (g : Gateway) (x : Exchange) : Passage :=
  match x.backendResponse with
  | none => refuse g x (.internal "no downstream response")
  | some r =>
      proceed g
        { x with
          backendResponse := none
          response := some { r with headers := r.headers.withoutHops } }

/-- Gives the lease back. -/
def giveBack (g : Gateway) (x : Exchange) : Passage :=
  proceed (g.giveBack x.lease) { x with lease := none }

end Stage
end ApiGateway
