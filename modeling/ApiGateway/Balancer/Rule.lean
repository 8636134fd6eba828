import ApiGateway.Balancer.Kind
import ApiGateway.Discovery.Service
import ApiGateway.Error
import Std.Data.ExtTreeMap

/-!
# Choosing a backend

What each kind of load balancer remembers, and how it chooses from a list of backends. Taking
turns counts the choices made; choosing by load counts the calls in flight at each endpoint, and
forgets endpoints that are neither listed nor in use.
-/

namespace ApiGateway
namespace Balancer

/-- Calls in flight by endpoint. -/
abbrev InFlight := Std.ExtTreeMap String Nat compare

/-- What a load balancer remembers. -/
inductive Rule
  /-- How many choices were made. -/
  | inTurn (cursor : Nat)
  | byLoad (inFlight : InFlight)
  | alwaysFirst

namespace Rule

/-- A rule of a kind that has not chosen yet. -/
def ofKind : Kind → Rule
  | .roundRobin => inTurn 0
  | .leastConnection => byLoad ∅
  | .noLoadBalancer => alwaysFirst

def kind : Rule → Kind
  | inTurn _ => .roundRobin
  | byLoad _ => .leastConnection
  | alwaysFirst => .noLoadBalancer

def load (m : InFlight) (endpoint : String) : Nat := m.getD endpoint 0

/-- The first backend with the fewest calls in flight, starting from one. -/
def leastLoaded (m : InFlight) : Service → List Service → Service
  | best, [] => best
  | best, s :: ss =>
      if load m s.endpoint < load m best.endpoint then leastLoaded m s ss
      else leastLoaded m best ss

/-- The endpoints that are listed or in use. -/
def forgetIdle (m : InFlight) (services : List Service) : InFlight :=
  m.filter fun e n => 0 < n || services.any (·.endpoint = e)

/-- How many choices are told apart: as many as 64 bits hold. -/
def cursorBound : Nat := 18446744073709551616

/-- Chooses a backend from a list. -/
def pick (r : Rule) (services : List Service) : Except GatewayError (Service × Rule) :=
  match r, services with
  | inTurn _, [] => .error (.noServiceAvailable "round robin found no services")
  | inTurn n, s :: ss =>
      .ok (((s :: ss)[n % (s :: ss).length]?).getD s, inTurn ((n + 1) % cursorBound))
  | byLoad _, [] => .error (.noServiceAvailable "least connection found no services")
  | byLoad m, s :: ss =>
      let m := forgetIdle m (s :: ss)
      let chosen := leastLoaded m s ss
      .ok (chosen, byLoad (m.insert chosen.endpoint (load m chosen.endpoint + 1)))
  | alwaysFirst, [] => .error (.noServiceAvailable "no services configured")
  | alwaysFirst, s :: _ => .ok (s, alwaysFirst)

def release (r : Rule) (endpoint : String) : Rule :=
  match r with
  | byLoad m =>
      match m[endpoint]? with
      | some n => byLoad (m.insert endpoint (n - 1))
      | none => byLoad m
  | r => r

/-- The calls in flight at an endpoint, where they are counted. -/
def inFlight? (r : Rule) (endpoint : String) : Option Nat :=
  match r with
  | byLoad m => some (load m endpoint)
  | _ => none

end Rule
end Balancer
end ApiGateway
