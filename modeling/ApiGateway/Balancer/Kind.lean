import ApiGateway.Text.Ascii

/-!
# Kinds of load balancers

How the backend of a call is chosen: in turn, by the fewest calls in flight, or always the first.
-/

namespace ApiGateway
namespace Balancer

/-- A way to choose among backends. -/
inductive Kind
  | roundRobin
  | leastConnection
  | noLoadBalancer
deriving DecidableEq

namespace Kind

/-- The kind that a name stands for, in any case; no name stands for no balancing. -/
def ofName? (name : String) : Option Kind :=
  match Text.asciiLower name with
  | "roundrobin" | "round_robin" => some roundRobin
  | "leastconnection" | "least_connection" => some leastConnection
  | "noloadbalancer" | "no_load_balancer" | "" => some noLoadBalancer
  | _ => none

/-- The complaint about a name that stands for no kind. -/
def complaint (name : String) : String :=
  "unknown load balancer '" ++ Text.asciiLower name ++ "'"

def name : Kind → String
  | roundRobin => "RoundRobin"
  | leastConnection => "LeastConnection"
  | noLoadBalancer => "NoLoadBalancer"

end Kind
end Balancer
end ApiGateway
