import ApiGateway.Breaker.Registry
import ApiGateway.Error
import ApiGateway.Qos.Policy

/-!
# Guarded calls

A call under a policy first asks the breaker of its scope. If it may pass, a guard keeps which
breaker let it pass, whether as a trial, and when its time is over. However the call ends, the
guard is settled once: an answer of the backend is a success, whatever its status; a failure on
the way, the end of its time, and the departure of the caller are failures.
-/

namespace ApiGateway
namespace Qos

/-- A call that a breaker let pass. -/
structure Guard where
  breaker : Nat
  probe : Bool
  deadline : Instant
deriving DecidableEq

/-- Begins a call: unguarded without a policy, guarded if the breaker lets it pass. -/
def enter (r : BreakerRegistry) (policy : Option Policy) (scope : String) (now : Instant) :
    BreakerRegistry × Except GatewayError (Option Guard) :=
  match policy with
  | none => (r, .ok none)
  | some p =>
      let (r, i) := r.getOrCreate scope p.breaker
      match r.check i now with
      | (r, .allowed) => (r, .ok (some ⟨i, false, now + p.timeout⟩))
      | (r, .probe) => (r, .ok (some ⟨i, true, now + p.timeout⟩))
      | (r, .rejected) => (r, .error (.circuitOpen scope))

/-- Settles a guard by the outcome of its call, and tells whether the breaker opened. -/
def leave (r : BreakerRegistry) (guard : Option Guard) (succeeded : Bool) (now : Instant) :
    BreakerRegistry × Bool :=
  match guard with
  | none => (r, false)
  | some g =>
      if succeeded then (r.recordSuccess g.breaker g.probe, false)
      else r.recordFailure g.breaker g.probe now

end Qos
end ApiGateway
