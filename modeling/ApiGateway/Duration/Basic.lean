/-!
# Instants and lengths of time

Both are counted in nanoseconds; instants count from the start of the clock that the caller
keeps. No operation of the library reads a clock: every one that depends on the time takes the
instant as an argument.
-/

namespace ApiGateway

/-- A length of time in nanoseconds. -/
abbrev Duration := Nat

/-- A point of time, in nanoseconds since the clock started. -/
abbrev Instant := Nat

namespace Duration

def perSecond : Nat := 1000000000

def ofSecs (n : Nat) : Duration := n * perSecond

def ofMillis (n : Nat) : Duration := n * 1000000

def secs (d : Duration) : Nat := d / perSecond

/-- The nanoseconds beyond the whole seconds. -/
def subsecNanos (d : Duration) : Nat := d % perSecond

def millis (d : Duration) : Nat := d / 1000000

def micros (d : Duration) : Nat := d / 1000

end Duration
end ApiGateway
