import ApiGateway.Duration.Basic

/-!
# Circuit breakers

A breaker watches the calls to a backend. While it is closed, calls pass and failures are counted;
enough of them within a window open it. While it is open, calls are refused until the break is
over. Then it is half-open: a few trial calls pass, and the outcome of a trial closes it or opens
it again.
-/

namespace ApiGateway

/-- When a breaker opens, for how long, and how it is tried out again. -/
structure BreakerSettings where
  failureThreshold : Nat
  breakDuration : Duration
  halfOpenTrials : Nat
  failureWindow : Duration
deriving DecidableEq

inductive BreakerState
  | closed (failures : Nat) (windowStart : Option Instant)
  | opened (retryAt : Instant)
  | halfOpen (trials : Nat)
deriving DecidableEq

/-- What a breaker says to a call. -/
inductive BreakerCheck
  | allowed
  /-- The call is a trial. -/
  | probe
  | rejected
deriving DecidableEq

structure Breaker where
  settings : BreakerSettings
  state : BreakerState := .closed 0 none
deriving DecidableEq

namespace Breaker

def check (b : Breaker) (now : Instant) : Breaker × BreakerCheck :=
  match b.state with
  | .closed _ _ => (b, .allowed)
  | .opened t =>
      if t ≤ now then ({ b with state := .halfOpen 1 }, .probe) else (b, .rejected)
  | .halfOpen n =>
      if n < b.settings.halfOpenTrials then ({ b with state := .halfOpen (n + 1) }, .probe)
      else (b, .rejected)

/-- The breaker opened for a break. -/
def opened (b : Breaker) (now : Instant) : Breaker :=
  { b with state := .opened (now + b.settings.breakDuration) }

/-- The number of failures with one more, and the start of their window. -/
def countFailure (b : Breaker) (failures : Nat) (windowStart : Option Instant) (now : Instant) :
    Nat × Instant :=
  match windowStart with
  | some start =>
      if now - start ≤ b.settings.failureWindow then (failures + 1, start) else (1, now)
  | none => (1, now)

/-- Takes the success of a call; outcomes that come late change nothing. -/
def recordSuccess (b : Breaker) (probe : Bool) : Breaker :=
  match b.state with
  | .closed _ _ => { b with state := .closed 0 none }
  | .halfOpen _ => if probe then { b with state := .closed 0 none } else b
  | .opened _ => b

/-- Takes the failure of a call, and tells whether it opened the breaker. -/
def recordFailure (b : Breaker) (probe : Bool) (now : Instant) : Breaker × Bool :=
  match b.state with
  | .closed failures windowStart =>
      let (failures, start) := b.countFailure failures windowStart now
      if b.settings.failureThreshold ≤ failures then (b.opened now, true)
      else ({ b with state := .closed failures (some start) }, false)
  | .halfOpen _ => if probe then (b.opened now, true) else (b, false)
  | .opened _ => (b, false)

end Breaker
end ApiGateway
