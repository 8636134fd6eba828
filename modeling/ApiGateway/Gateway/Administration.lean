import ApiGateway.Config.Printer
import ApiGateway.Gateway.Basic

/-!
# Administration

The pages for operators: whether the gateway is alive and ready, its metrics, its configuration
without the secret of the service registry, and the removal of a region of the output cache.
-/

namespace ApiGateway

/-- The configuration as it is shown: a token of the service registry is not told. -/
def Config.Gateway.redacted (c : Config.Gateway) : Config.Gateway :=
  { c with global :=
    { c.global with serviceDiscovery :=
      c.global.serviceDiscovery.map fun s => { s with token := s.token.map fun _ => "***" } } }

namespace Gateway

/-- What stands in front of the name of a region in a path. -/
def regionPath : String := "/outputcache/"

/-- The region that a path names: everything after the front, as it is written. -/
def regionOfPath? (path : String) : Option String :=
  let front := regionPath.toList
  let region := path.toList.drop front.length
  if front.isPrefixOf path.toList ∧ region ≠ [] then some (String.ofList region) else none

/-- Answers a request of an operator about a region of the cache. -/
def administerRegion (g : Gateway) (method : Method) (region : String) : Gateway × Response :=
  if method = .delete then
    let (cache, removed) := g.cache.clearRegion region
    ({ g with cache },
      Response.ofData 200 (.table [("region", .text region), ("removed", .nat removed)]))
  else
    let r := Response.ofData 405 (.table [("error", .text "method not allowed")])
    (g, { r with headers := r.headers.setText .allow "DELETE" })

/--
Answers a request of an operator. The text of the metrics is given by whoever keeps them; it is
empty where they are not shown.
-/
def administer (g : Gateway) (exposition : String) (method : Method) (path : String) :
    Gateway × Response :=
  if path = "/health" ∨ path = "/healthz" then
    (g, Response.ofData 200 (.table [("status", .text "ok")]))
  else if path = "/ready" ∨ path = "/readyz" then
    (g, Response.ofData 200
      (.table [("routes", .nat g.table.routes.length), ("status", .text "ready")]))
  else if path = "/metrics" then
    (g, Response.ofText 200 "text/plain; version=0.0.4; charset=utf-8" exposition)
  else if path = "/configuration" then
    (g, Response.ofText 200 "application/json" (Json.pretty g.config.redacted.toData))
  else
    match regionOfPath? path with
    | some region => g.administerRegion method region
    | none => (g, Response.ofData 404 (.table [("error", .text "not found")]))

end Gateway
end ApiGateway
