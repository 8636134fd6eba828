import ApiGateway.Config.Basic
import ApiGateway.RateLimit.Period
import ApiGateway.Text.Occurrence

/-!
# Rate-limit policies

How the callers of a route are limited: how many calls each of them may make in a window, by
which header they are told apart, who is not limited, and how an exhausted quota is told.
-/

namespace ApiGateway
namespace RateLimit

/-- How the callers of a route are limited. -/
structure Policy where
  clientIdHeader : HeaderName
  clientWhitelist : List String
  period : Duration
  /-- The period as it is written in the configuration. -/
  periodLabel : String
  limit : Nat
  disableHeaders : Bool
  quotaExceededMessage : String
  statusCode : Nat
  counterPrefix : String
deriving DecidableEq

/-- The wording of an exhausted quota where none is configured. -/
def defaultQuotaMessage : String :=
  "API calls quota exceeded! maximum admitted \x7b0\x7d per \x7b1\x7d."

/-- The identifier of callers that do not tell who they are. -/
def anonymousClient : String := "anonymous"

namespace Policy

/-- The policy of a route, or none where limiting is switched off. -/
def ofConfig (c : Config.RateLimit) (global : Config.RateLimitGlobal) :
    Except GatewayError (Option Policy) :=
  if ! c.enabled then .ok none
  else if c.limit = 0 then .error (.config "rate limit must be greater than 0")
  else
    match HeaderName.ofText? global.clientIdHeader with
    | none =>
        .error (.config
          s!"invalid client id header '{global.clientIdHeader}': {HeaderName.complaint}")
    | some header => do
        let period ← parsePeriod c.period
        return some {
          clientIdHeader := header
          clientWhitelist := c.clientWhitelist
          period
          periodLabel := Text.trim c.period
          limit := c.limit.toNat
          disableHeaders := global.disableHeaders
          quotaExceededMessage := global.quotaExceededMessage.getD defaultQuotaMessage
          statusCode := global.statusCode.toNat
          counterPrefix := global.counterPrefix }

def clientId (p : Policy) (h : Headers) : String :=
  match (h.text? p.clientIdHeader).map Text.trim with
  | some id => if id.isEmpty then anonymousClient else id
  | none => anonymousClient

def isWhitelisted (p : Policy) (client : String) : Bool :=
  p.clientWhitelist.contains client

/-- The wording of an exhausted quota, with the limit and the period filled in. -/
def quotaMessage (p : Policy) : String :=
  Text.replaceAll "\x7b1\x7d" p.periodLabel
    (Text.replaceAll "\x7b0\x7d" (toString p.limit) p.quotaExceededMessage)

/-- The refusal of a caller whose quota is exhausted. -/
def rejection (p : Policy) : GatewayError :=
  .rateLimited p.quotaMessage p.statusCode

end Policy
end RateLimit
end ApiGateway
