import ApiGateway.Run.Stage

/-!
# Entry

The stages that decide whether a request may go on at all: it needs a route, its caller must not
have used up the quota, and where the route asks for it the caller must be known and have the
claims that are required.
-/

namespace ApiGateway
namespace Stage

open Passage

/-- Finds the route. A request identifier that the caller sent takes the place of the own one. -/
def resolveRoute (g : Gateway) (x : Exchange) : Passage :=
  match g.table.resolve x.request.method x.request.uri.path with
  | .error e => refuse g x e
  | .ok r =>
      let sent := r.route.requestIdKey.bind x.request.headers.text?
      proceed g { x with resolved := some r, requestId := sent.getD x.requestId }

/-- Counts the request against the quota of its caller. -/
def limitRate (s : Surroundings) (g : Gateway) (x : Exchange) : Passage :=
  onRoute g x fun r =>
    match r.route.rateLimit with
    | none => proceed g x
    | some p =>
        let client := p.clientId x.request.headers
        if p.isWhitelisted client then proceed g x
        else
          let (limiter, decision) := g.limiter.check p r.route.key client s.now
          let x := { x with advice := decision.headers p s.wallClock }
          let g := { g with limiter }
          if decision.allowed then proceed g x
          else refuse (g.countFor "gateway_rate_limit_rejected_total" r.route.key) x p.rejection

/-- Asks who the caller is. -/
def authenticate (s : Surroundings) (g : Gateway) (x : Exchange) : Passage :=
  onRoute g x fun r =>
    match r.route.authentication with
    | none => proceed g x
    | some p =>
        let x := x.contact (.identity p)
        match s.identify p x.request.headers with
        | .ok claims => proceed g { x with claims := some claims }
        | .error e => refuse g x e

def authorise (g : Gateway) (x : Exchange) : Passage :=
  onRoute g x fun r =>
    match r.route.authentication, x.claims with
    | none, _ => proceed g x
    | some _, none => refuse g x (.unauthorised "no claims")
    | some p, some claims =>
        match claims.authorise r.route.claimsRequirement p.allowedScopes with
        | .ok () => proceed g x
        | .error e => refuse g x e

end Stage
end ApiGateway
