import ApiGateway.Balancer.Registry
import ApiGateway.Breaker.Registry
import ApiGateway.Cache.Store
import ApiGateway.Config.Load
import ApiGateway.Metrics.Basic
import ApiGateway.RateLimit.Limiter
import ApiGateway.Route.Table

/-!
# Gateways

What all requests share: the configuration that is in force with its route table, the load
balancers, the counters of the rate limiter, the output cache, the breakers, and the metrics.

A new configuration is taken in two parts. First it is checked and its table is made, which draws
a number for the table. Then the table is put in force, the load balancers and breakers of the
former one are forgotten, and everything else stays. A configuration that is not good leaves no
trace but the number.
-/

namespace ApiGateway

/-- The shared state of a gateway. -/
structure Gateway where
  config : Config.Gateway
  table : RouteTable
  balancers : BalancerRegistry
  limiter : RateLimit.Limiter := {}
  cache : Cache.Store := {}
  breakers : BreakerRegistry := {}
  metrics : Metrics := {}
  /-- The number of the next route table. -/
  nextGeneration : Nat

namespace Gateway

/-- Takes note of the number of routes in force. -/
def countRoutes (m : Metrics) (t : RouteTable) : Metrics :=
  m.set ⟨"gateway_config_routes_total", []⟩ (Float.ofNat t.routes.length)

/-- A gateway that has not served anything yet. -/
def ofConfig (c : Config.Gateway) : Except GatewayError Gateway := do
  let table ← RouteTable.compile 0 c
  return {
    config := c
    table
    balancers := { directory := .ofConfig c.global.serviceDiscovery }
    metrics := countRoutes {} table
    nextGeneration := 1 }

/-- A configuration that was checked, with its route table. -/
structure Prepared where
  config : Config.Gateway
  table : RouteTable

/-- Checks a configuration and makes its table; a table that fails has drawn its number, too. -/
def prepare (g : Gateway) (c : Config.Gateway) : Gateway × Except Config.Fault Prepared :=
  match c.validate with
  | .error v => (g, .error (.violation v))
  | .ok () =>
      let drawn := { g with nextGeneration := g.nextGeneration + 1 }
      match RouteTable.compile g.nextGeneration c with
      | .error e => (drawn, .error (.gateway e))
      | .ok table => (drawn, .ok ⟨c, table⟩)

def install (g : Gateway) (p : Prepared) : Gateway :=
  { g with
    table := p.table
    config := p.config
    balancers := g.balancers.reset (.ofConfig p.config.global.serviceDiscovery)
    breakers := g.breakers.clear
    metrics := (countRoutes g.metrics p.table).count "gateway_config_reloads_total" }

def reload (g : Gateway) (c : Config.Gateway) : Gateway × Except Config.Fault Unit :=
  match g.prepare c with
  | (g, .error f) => (g, .error f)
  | (g, .ok p) => (g.install p, .ok ())

/-- Whether a multiple of a period lies after one instant and not after another. -/
def passes (period : Duration) (before now : Instant) : Bool :=
  before / period < now / period

/-- The sweeps that became due between two instants, done at the latter. -/
def sweep (before now : Instant) (g : Gateway) : Gateway :=
  let limiter :=
    if passes RateLimit.sweepInterval before now then g.limiter.evictStale now else g.limiter
  let cache :=
    if passes Cache.sweepInterval before now then g.cache.evictExpired now else g.cache
  { g with limiter, cache }

/-- The first instant after another one at which a sweep is due. -/
def nextSweep (now : Instant) : Instant :=
  let after (period : Duration) := (now / period + 1) * period
  min (after RateLimit.sweepInterval) (after Cache.sweepInterval)

end Gateway
end ApiGateway
