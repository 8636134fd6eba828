import ApiGateway.Duration.Calendar
import ApiGateway.RateLimit.Policy

/-!
# Rate-limit decisions

The outcome of one attempt, and the headers that tell the caller about it: how much is left and
when the window ends, or after how many whole seconds it pays to try again.
-/

namespace ApiGateway
namespace RateLimit

/-- The outcome of one attempt. -/
structure Decision where
  allowed : Bool
  remaining : Nat
  /-- The time until the window closes. -/
  resetAfter : Duration
deriving DecidableEq

def limitHeader : HeaderName := ⟨"x-rate-limit-limit"⟩
def remainingHeader : HeaderName := ⟨"x-rate-limit-remaining"⟩
def resetHeader : HeaderName := ⟨"x-rate-limit-reset"⟩

/-- The seconds after which to try again: rounded up, so that nobody comes early, and not zero. -/
def retryAfterSecs (resetAfter : Duration) : Nat :=
  max 1 (resetAfter.secs + if 0 < resetAfter.subsecNanos then 1 else 0)

/-- The advice for a caller; `wallClock` is the time since the beginning of 1970. -/
def Decision.headers (d : Decision) (p : Policy) (wallClock : Duration) : Headers :=
  if p.disableHeaders then {}
  else if d.allowed then
    (((({} : Headers).setText limitHeader p.periodLabel).setText remainingHeader
      (toString d.remaining)).setText resetHeader
        (Calendar.print (Duration.secs (wallClock + d.resetAfter))))
  else ({} : Headers).setText .retryAfter (toString (retryAfterSecs d.resetAfter))

end RateLimit
end ApiGateway
