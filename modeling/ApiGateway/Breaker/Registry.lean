import ApiGateway.Breaker.Basic
import Std.Data.ExtTreeMap

/-!
# The breakers of a gateway

One breaker for each scope, made on first use. Calls refer to a breaker by its number, so that a
call that is on its way when the scopes are cleared still reports to the breaker that let it pass.
-/

namespace ApiGateway

/-- All breakers that were made, and which one is in charge of each scope. -/
structure BreakerRegistry where
  breakers : Array Breaker := #[]
  scopes : Std.ExtTreeMap String Nat compare := ∅

namespace BreakerRegistry

/-- The number of the breaker of a scope, which is made if there is none. -/
def getOrCreate (r : BreakerRegistry) (scope : String) (settings : BreakerSettings) :
    BreakerRegistry × Nat :=
  match r.scopes[scope]? with
  | some i => (r, i)
  | none =>
      (⟨r.breakers.push { settings }, r.scopes.insert scope r.breakers.size⟩, r.breakers.size)

def find? (r : BreakerRegistry) (scope : String) : Option Breaker := do
  r.breakers[← r.scopes[scope]?]?

def clear (r : BreakerRegistry) : BreakerRegistry :=
  { r with scopes := ∅ }

def check (r : BreakerRegistry) (i : Nat) (now : Instant) : BreakerRegistry × BreakerCheck :=
  match r.breakers[i]? with
  | some b =>
      let (b, answer) := b.check now
      ({ r with breakers := r.breakers.setIfInBounds i b }, answer)
  | none => (r, .rejected)

def recordSuccess (r : BreakerRegistry) (i : Nat) (probe : Bool) : BreakerRegistry :=
  { r with breakers := r.breakers.modify i (·.recordSuccess probe) }

/-- Reports a failure to a breaker, and tells whether it opened. -/
def recordFailure (r : BreakerRegistry) (i : Nat) (probe : Bool) (now : Instant) :
    BreakerRegistry × Bool :=
  match r.breakers[i]? with
  | some b =>
      let (b, opened) := b.recordFailure probe now
      ({ r with breakers := r.breakers.setIfInBounds i b }, opened)
  | none => (r, false)

end BreakerRegistry
end ApiGateway
