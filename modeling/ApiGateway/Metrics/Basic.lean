import ApiGateway.Duration.Basic

/-!
# Metrics

What a gateway counts and measures about itself. A series is a name with labels. Counters only
grow, and go on from zero after the largest number of 64 bits. Gauges hold the latest value, and
histograms tell how many measurements were at most each of a row of bounds.
-/

namespace ApiGateway
namespace Metrics

/-- A name with labels in a fixed order. -/
structure Series where
  name : String
  labels : List (String × String) := []
deriving DecidableEq

/-- The upper bounds of the buckets of a histogram, in seconds. -/
def bounds : List Float :=
  [0.001, 0.005, 0.01, 0.025, 0.05, 0.1, 0.25, 0.5, 1, 2.5, 5, 10]

/-- How many measurements there were, how many of them within each bound, and their sum. -/
structure Histogram where
  within : List Nat := bounds.map fun _ => 0
  count : Nat := 0
  sum : Float := 0

/-- The histogram with one more measurement. -/
def Histogram.observe (h : Histogram) (v : Float) : Histogram :=
  { within := (h.within.zip bounds).map fun b => if v ≤ b.2 then b.1 + 1 else b.1
    count := h.count + 1
    sum := h.sum + v }

/-- The values of series, with that of one of them changed; a new series starts from a value. -/
def update {α : Type} (s : Series) (start : α) (f : α → α) :
    List (Series × α) → List (Series × α)
  | [] => [(s, f start)]
  | (t, a) :: rest => if t = s then (t, f a) :: rest else (t, a) :: update s start f rest

end Metrics

/-- Everything that was counted and measured so far. -/
structure Metrics where
  counters : List (Metrics.Series × UInt64) := []
  gauges : List (Metrics.Series × Float) := []
  histograms : List (Metrics.Series × Metrics.Histogram) := []

namespace Metrics

/-- Adds to a counter, which has 64 bits. -/
def add (m : Metrics) (s : Series) (n : UInt64) : Metrics :=
  { m with counters := update s 0 (· + n) m.counters }

def count (m : Metrics) (name : String) (labels : List (String × String) := []) : Metrics :=
  m.add ⟨name, labels⟩ 1

def set (m : Metrics) (s : Series) (v : Float) : Metrics :=
  { m with gauges := update s v (fun _ => v) m.gauges }

def observe (m : Metrics) (s : Series) (v : Float) : Metrics :=
  { m with histograms := update s {} (·.observe v) m.histograms }

def seconds (d : Duration) : Float :=
  Float.ofNat (d / 1000000000) + Float.ofNat (d % 1000000000) / 1000000000

/-- The explanations of the names that a gateway uses. -/
def explanations : List (String × String) :=
  [("gateway_http_requests_total", "Total HTTP requests processed by the pipeline"),
   ("gateway_http_request_duration_seconds", "Total request duration from client perspective"),
   ("gateway_connections_active", "Number of active inbound connections"),
   ("gateway_connections_total", "Total connections accepted"),
   ("gateway_rate_limit_rejected_total", "Total requests rejected by the rate limiter"),
   ("gateway_cache_hits_total", "Responses served from the output cache"),
   ("gateway_cache_misses_total", "Cacheable requests not found in the output cache"),
   ("gateway_lb_leases_total", "Backend leases handed out by load balancers"),
   ("gateway_downstream_timeouts_total", "Downstream calls that exceeded the route timeout"),
   ("gateway_circuit_breaker_rejected_total",
    "Total requests rejected by an open circuit breaker"),
   ("gateway_circuit_breaker_opened_total", "Circuit breaker transitions to open"),
   ("gateway_discovered_nodes", "Number of nodes discovered per service"),
   ("gateway_config_routes_total", "Number of routes currently loaded"),
   ("gateway_config_reloads_total", "Route table reload events")]

end Metrics
end ApiGateway
