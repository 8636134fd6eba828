import ApiGateway.Breaker.Basic
import ApiGateway.Config.Basic

/-!
# Quality-of-service policies

How long a route waits for a backend, and how its calls are guarded by breakers: one for the
route, or one for each of its backends.
-/

namespace ApiGateway
namespace Qos

/-- What a breaker of a route watches. -/
inductive Scope
  | route
  | host
deriving DecidableEq

/-- When a route gives up on its backends. -/
structure Policy where
  timeout : Duration
  breaker : BreakerSettings
  scope : Scope
deriving DecidableEq

namespace Policy

def ofConfig (c : Config.Qos) : Policy :=
  { timeout := Duration.ofMillis c.timeoutMs.toNat
    breaker :=
      { failureThreshold := max 1 c.exceptionsAllowed.toNat
        breakDuration := Duration.ofMillis c.breakMs.toNat
        halfOpenTrials := max 1 c.halfOpenTrials.toNat
        failureWindow := Duration.ofMillis c.failureWindowMs.toNat }
    scope := if c.scope = "host" then .host else .route }

/-- The name of the breaker for a call of a route to an endpoint. -/
def scopeKey (p : Policy) (routeKey endpoint : String) : String :=
  match p.scope with
  | .route => routeKey
  | .host => routeKey ++ "@" ++ endpoint

end Policy
end Qos
end ApiGateway
