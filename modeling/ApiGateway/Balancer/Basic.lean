import ApiGateway.Balancer.Rule
import ApiGateway.Discovery.Source
import ApiGateway.Text.Visible

/-!
# Load balancers

A load balancer reads the current backends from its source and chooses one by its rule. What it
chose is on lease until it is given back. While the registry is asked for the backends, other leases
are taken and given back.
-/

namespace ApiGateway

structure Balancer where
  source : ServiceSource
  rule : Balancer.Rule

namespace Balancer

/-- Takes one of the backends that were read on lease; a failure leaves the rule as it was. -/
def choose (b : Balancer) (read : ServiceSource × Except GatewayError (List Service)) :
    Balancer × Except GatewayError Service :=
  match read with
  | (source, .error e) => ({ b with source }, .error e)
  | (source, .ok services) =>
      match b.rule.pick services with
      | .error e => ({ b with source }, .error e)
      | .ok (s, rule) => (⟨source, rule⟩, .ok s)

def lease (b : Balancer) (exchange : Consul.Exchange) (now : Instant) :
    Balancer × Except GatewayError Service :=
  b.choose (b.source.read exchange now)

/-- Takes a backend on lease when the registry, which was asked for it, has answered. -/
def endLease (b : Balancer) (p : RegisteredService.PendingRead) (exchange : Consul.Exchange)
    (now : Instant) : Balancer × Except GatewayError Service :=
  b.choose (b.source.endRead p exchange now)

def release (b : Balancer) (endpoint : String) : Balancer :=
  { b with rule := b.rule.release endpoint }

end Balancer

/-- A lease that waits for the registry, from a load balancer that is named by its number. -/
structure PendingLease where
  balancer : Nat
  read : RegisteredService.PendingRead

/-- A backend on lease from a load balancer, which is named by its number. -/
structure Lease where
  balancer : Nat
  kind : Balancer.Kind
  service : Service
deriving DecidableEq

/--
How one character is shown between quotes: quotes and backslashes after a backslash, line ends,
tabs and the character zero by a letter or digit, other hidden characters by their number.
-/
def Lease.escape (c : Char) : List Char :=
  if c = '"' ∨ c = '\\' then ['\\', c]
  else if c = '\n' then ['\\', 'n']
  else if c = '\r' then ['\\', 'r']
  else if c = '\t' then ['\\', 't']
  else if c = '\x00' then ['\\', '0']
  else if Text.isVisible c then [c]
  else '\\' :: 'u' :: '\x7b' :: (Nat.toDigits 16 c.toNat ++ ['\x7d'])

/-- The shown form of a lease that was not given back yet. -/
def Lease.print (l : Lease) : String :=
  "Lease \x7b endpoint: \"" ++ String.ofList (l.service.endpoint.toList.flatMap Lease.escape)
    ++ "\", balancer: " ++ l.kind.name ++ ", released: false \x7d"

end ApiGateway
