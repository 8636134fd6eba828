import ApiGateway.Desk
import ApiGateway.Qos.Guard

/-!
# Guarded calls on their own

A call under a policy that has nothing else to it: it waits under its guard, or it has ended with
a result.
-/

namespace ApiGateway
namespace Qos

/-- A guarded call. -/
inductive Call (α : Type)
  | waiting (guard : Option Guard)
  | ended (result : Except GatewayError α)

namespace Call

variable {α : Type}

def start (r : BreakerRegistry) (policy : Option Policy) (scope : String) (now : Instant) :
    BreakerRegistry × Call α :=
  match enter r policy scope now with
  | (r, .ok guard) => (r, waiting guard)
  | (r, .error e) => (r, ended (.error e))

def result? : Call α → Option (Except GatewayError α)
  | waiting _ => none
  | ended result => some result

/-- The end of the time of a call. -/
def deadline? : Call α → Option Instant
  | waiting guard => guard.map (·.deadline)
  | ended _ => none

def finish (now : Instant) (r : BreakerRegistry) (c : Call α) (result : Except GatewayError α) :
    BreakerRegistry × Call α :=
  match c with
  | waiting guard => ((leave r guard result.isOk now).1, ended result)
  | ended _ => (r, c)

/-- How guarded calls are brought to an end. -/
def conduct : Conduct BreakerRegistry (Call α) (Except GatewayError α) where
  deadline? := deadline?
  isOver c := c.result?.isSome
  answer := finish
  expire now r c := finish now r c (.error .downstreamTimeout)
  abandon now r c := (finish now r c (.error .downstreamTimeout)).1

end Call
end Qos
end ApiGateway
