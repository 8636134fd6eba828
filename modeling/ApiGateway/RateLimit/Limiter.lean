import ApiGateway.RateLimit.Decision
import Std.Data.ExtTreeMap

/-!
# The rate limiter

Every caller of every limited route has a counter of its own. The first attempt opens a window;
an attempt inside it counts if the limit is not reached yet; an attempt after its end opens a new
one. Sweeps drop the counters whose window has closed, and keep the number of counters within a
bound by dropping those whose window closes first.
-/

namespace ApiGateway
namespace RateLimit

/-- The attempts of one caller in the current window. -/
structure Counter where
  windowStart : Instant
  count : Nat
  /-- The end of the window in microseconds, in 64 bits, for sweeps. -/
  windowEndMicros : Nat
deriving DecidableEq

/-- How many readings of the clock are told apart: those of 64 bits. -/
def readingBound : Nat := 18446744073709551616

/-- A reading of the clock in microseconds, in 64 bits. -/
def microReading (t : Instant) : Nat := Duration.micros t % readingBound

namespace Counter

/-- A counter whose window opens now. -/
def opened (period : Duration) (now : Instant) : Counter :=
  ⟨now, 0, microReading (now + period)⟩

/-- The counter with a new window if the current one has lasted for the period. -/
def renewed (c : Counter) (period : Duration) (now : Instant) : Counter :=
  if period ≤ now - c.windowStart then opened period now else c

/-- Decides on an attempt and counts it if it is allowed. -/
def attempt (c : Counter) (p : Policy) (now : Instant) : Counter × Decision :=
  let c := c.renewed p.period now
  let resetAfter := c.windowStart + p.period - now
  if p.limit ≤ c.count then (c, ⟨false, 0, resetAfter⟩)
  else ({ c with count := c.count + 1 }, ⟨true, p.limit - (c.count + 1), resetAfter⟩)

end Counter

/-- The counters of all callers. -/
structure Limiter where
  counters : Std.ExtTreeMap String Counter compare := ∅

/-- The name of the counter of a caller on a route. -/
def counterKey (p : Policy) (routeKey client : String) : String :=
  p.counterPrefix ++ ":" ++ routeKey ++ ":" ++ client

/-- The most counters that a sweep leaves. -/
def maxCounters : Nat := 100000

def sweepInterval : Duration := Duration.ofSecs 60

namespace Limiter

def size (l : Limiter) : Nat := l.counters.size

/-- Decides on an attempt of a caller on a route. -/
def check (l : Limiter) (p : Policy) (routeKey client : String) (now : Instant) :
    Limiter × Decision :=
  let key := counterKey p routeKey client
  let counter := (l.counters[key]?).getD (Counter.opened p.period now)
  let (counter, decision) := counter.attempt p now
  (⟨l.counters.insert key counter⟩, decision)

/-- The counters whose window is still open. -/
def dropClosed (l : Limiter) (now : Instant) : Limiter :=
  ⟨l.counters.filter fun _ c => microReading now < c.windowEndMicros⟩

/-- The names of the counters, those whose window closes first in front. -/
def keysByEnd (l : Limiter) : List String :=
  (l.counters.toList.mergeSort fun a b => a.2.windowEndMicros ≤ b.2.windowEndMicros).map (·.1)

/-- The counters without those beyond the bound whose window closes first. -/
def dropOverflow (l : Limiter) : Limiter :=
  if l.size ≤ maxCounters then l
  else ⟨(l.keysByEnd.take (l.size - maxCounters)).foldl (fun m k => m.erase k) l.counters⟩

/-- A sweep. -/
def evictStale (l : Limiter) (now : Instant) : Limiter :=
  (l.dropClosed now).dropOverflow

end Limiter
end RateLimit
end ApiGateway
