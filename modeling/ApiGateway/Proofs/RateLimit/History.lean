import ApiGateway.Proofs.RateLimit.Attempt

/-!
# The history of a rate limiter

A limiter answers checks, and sweeps come in between. `Limiter.decisions` are its answers in the
course of a history, and `decisionsOn` those that are given under one key.
-/

namespace ApiGateway
namespace RateLimit

/-- A caller on a route, and how it is limited there. -/
structure Caller where
  policy : Policy
  routeKey : String
  client : String
deriving DecidableEq

def Caller.key (c : Caller) : String := counterKey c.policy c.routeKey c.client

/-- An attempt of a caller at an instant. -/
structure Check extends Caller where
  time : Instant

/-- What happens to a limiter. -/
inductive Event
  | check (check : Check)
  | sweep (time : Instant)

def Event.time : Event → Instant
  | .check c => c.time
  | .sweep t => t

def Event.isCheck : Event → Bool
  | .check _ => true
  | .sweep _ => false

/-- The instants of the checks under a key. -/
def attempts (key : String) (events : List Event) : List Instant :=
  events.filterMap fun
    | .check c => if c.key = key then some c.time else none
    | .sweep _ => none

/-- The decisions on the checks of a caller, each with its instant. -/
def decisionsFor (caller : Caller) (rs : List (Check × Decision)) : List (Instant × Decision) :=
  rs.filterMap fun r => if r.1.toCaller = caller then some (r.1.time, r.2) else none

/-- The decisions on the checks under a key, each with its instant. -/
def decisionsOn (key : String) (rs : List (Check × Decision)) : List (Instant × Decision) :=
  rs.filterMap fun r => if r.1.key = key then some (r.1.time, r.2) else none

namespace Limiter

/-- The answer to a check. -/
def ask (l : Limiter) (c : Check) : Limiter × Decision :=
  l.check c.policy c.routeKey c.client c.time

/-- The limiter after an event. -/
def meet (l : Limiter) : Event → Limiter
  | .check c => (l.ask c).1
  | .sweep t => l.evictStale t

def after (l : Limiter) (events : List Event) : Limiter :=
  events.foldl meet l

/-- The decisions of a limiter in the course of a history. -/
def decisions (l : Limiter) : List Event → List (Check × Decision)
  | [] => []
  | .check c :: es => (c, (l.ask c).2) :: decisions (l.ask c).1 es
  | .sweep t :: es => decisions (l.evictStale t) es

/-- No sweep of a history finds more open windows than it may leave. -/
def Roomy (l : Limiter) : List Event → Prop
  | [] => True
  | .check c :: es => Roomy (l.ask c).1 es
  | .sweep t :: es => (l.dropClosed t).size ≤ maxCounters ∧ Roomy (l.evictStale t) es

instance decidableRoomy (l : Limiter) (events : List Event) : Decidable (l.Roomy events) :=
  match events with
  | [] => .isTrue trivial
  | .check c :: es => decidableRoomy (l.ask c).1 es
  | .sweep t :: es =>
      have := decidableRoomy (l.evictStale t) es
      inferInstanceAs (Decidable ((l.dropClosed t).size ≤ maxCounters ∧ Roomy (l.evictStale t) es))

end Limiter

namespace Limiter

/-- The counter that answers a check. -/
def answering (l : Limiter) (c : Check) : Counter :=
  l.found c.policy.period c.key c.time

section OneEvent

variable (l : Limiter)
variable (c : Check)

theorem ask_snd : (l.ask c).2 = ((l.answering c).attempt c.policy c.time).2 :=
  rfl

theorem getElem?_ask_self :
    (l.ask c).1.counters[c.key]? = some ((l.answering c).attempt c.policy c.time).1 :=
  l.getElem?_check_self c.policy c.routeKey c.client c.time

theorem getElem?_ask_of_ne
    {key : String}
    (h : c.key ≠ key) :
    (l.ask c).1.counters[key]? = l.counters[key]? :=
  l.getElem?_check_of_ne c.policy c.routeKey c.client c.time (Ne.symm h)

/-- A sweep that finds room drops the counters whose time is over, and no others. -/
theorem getElem?_evictStale
    {t : Instant}
    (hroom : (l.dropClosed t).size ≤ maxCounters)
    (key : String) :
    (l.evictStale t).counters[key]? =
      l.counters[key]?.filter fun c => decide (microReading t < c.windowEndMicros) := by
  unfold evictStale dropOverflow
  rw [if_pos hroom, dropClosed, Std.ExtTreeMap.getElem?_filter']

end OneEvent

/-- A history in two parts. -/
theorem decisions_append
    (l : Limiter)
    (before later : List Event) :
    l.decisions (before ++ later) = l.decisions before ++ (l.after before).decisions later := by
  induction before generalizing l with
  | nil => rfl
  | cons e es ih =>
      cases e with
      | check c => exact congrArg _ (ih _)
      | sweep t => exact ih _

theorem roomy_append
    {l : Limiter}
    {before later : List Event}
    (h : l.Roomy (before ++ later)) :
    (l.after before).Roomy later := by
  induction before generalizing l with
  | nil => exact h
  | cons e es ih =>
      cases e with
      | check c => exact ih h
      | sweep t => exact ih h.2

end Limiter

section Views

variable {key : String}
variable {c : Check}
variable {es : List Event}

theorem attempts_check_of_eq (h : c.key = key) :
    attempts key (.check c :: es) = c.time :: attempts key es := by
  simp only [attempts, List.filterMap_cons, if_pos h]

theorem attempts_check_of_ne (h : c.key ≠ key) :
    attempts key (.check c :: es) = attempts key es := by
  simp only [attempts, List.filterMap_cons, if_neg h]

theorem decisionsOn_check_of_eq {l : Limiter} (h : c.key = key) :
    decisionsOn key (l.decisions (.check c :: es)) =
      (c.time, (l.ask c).2) ::
        decisionsOn key ((l.ask c).1.decisions es) := by
  simp only [decisionsOn, Limiter.decisions, List.filterMap_cons, if_pos h]

theorem decisionsOn_check_of_ne {l : Limiter} (h : c.key ≠ key) :
    decisionsOn key (l.decisions (.check c :: es)) =
      decisionsOn key ((l.ask c).1.decisions es) := by
  simp only [decisionsOn, Limiter.decisions, List.filterMap_cons, if_neg h]

end Views

end RateLimit
end ApiGateway
