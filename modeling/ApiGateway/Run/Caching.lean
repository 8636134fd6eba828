import ApiGateway.Run.Stage

/-!
# Use of the output cache

A request that can be answered from the cache goes no further. Otherwise the key under which its
answer may be stored is kept, and a successful answer is stored before anything is added to it for
this caller.
-/

namespace ApiGateway
namespace Stage

open Passage

/-- The key of an exchange under a cache policy. -/
def cacheKeyOf (x : Exchange) (p : Cache.Policy) : Except GatewayError String := do
  let r ← x.route
  let target ← x.target
  let body := if p.hashBody then some x.request.body else none
  return Cache.key x.request.method r.route.key target body

def lookUp (s : Surroundings) (g : Gateway) (x : Exchange) : Passage :=
  onRoute g x fun r =>
    match r.route.cache with
    | none => proceed g x
    | some p =>
        if ! Cache.isCacheable x.request.method then proceed g x
        else
          match cacheKeyOf x p with
          | .error e => refuse g x e
          | .ok key =>
              match g.cache.get? key p.region s.now with
              | some hit =>
                  ⟨g.countFor "gateway_cache_hits_total" r.route.key,
                    { x with response := some hit, servedFromCache := true }, .respond⟩
              | none =>
                  proceed (g.countFor "gateway_cache_misses_total" r.route.key)
                    { x with cacheKey := some key }

/-- Stores a successful answer; a cache that is full is left as it is. -/
def store (s : Surroundings) (g : Gateway) (x : Exchange) : Passage :=
  onRoute g x fun r =>
    match r.route.cache, x.cacheKey, x.response with
    | some p, some key, some response =>
        if Status.isSuccess response.status then
          proceed { g with cache := (g.cache.add key response p.ttl p.region s.now).1 } x
        else proceed g x
    | _, _, _ => proceed g x

end Stage
end ApiGateway
