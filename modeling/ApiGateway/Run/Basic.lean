import ApiGateway.Run.Backend
import ApiGateway.Run.Caching
import ApiGateway.Run.Entry

/-!
# Runs

An exchange on its way through the stages. A run goes stage by stage, so that several runs and
changes of the configuration can take turns in any order. It ends when a response is ready, when
the request is refused, or after the last stage; then the lease is given back, and the response
gets what this caller is told. A run can also be given up, when the caller has gone away.

A run waits for its backend and, when it takes a lease, for the registry if it has to be asked.
-/

namespace ApiGateway

/-- How far a run is. -/
inductive Run.Phase
  | passing (rest : List Stage)
  | calling (call : BackendCall) (rest : List Stage)
  | ended (response : Response)

/-- An exchange on its way through the stages. -/
structure Run where
  exchange : Exchange
  phase : Run.Phase

def Stage.pass (s : Surroundings) (stage : Stage) (g : Gateway) (x : Exchange) : Passage :=
  match stage with
  | routeResolution => resolveRoute g x
  | rateLimit => limitRate s g x
  | authentication => authenticate s g x
  | authorisation => authorise g x
  | cacheLookup => lookUp s g x
  | requestConstruction =>
      match x.buildOutbound with
      | .ok q => .proceed g { x with outbound := some q }
      | .error e => .refuse g x e
  | lease => takeLease s g x
  | backendCall => beginCall s g x
  | responseMapping => mapResponse g x
  | cacheStore => store s g x
  | release => giveBack g x

namespace Run

def start (request : Request) (peer : SocketAddress) (requestId : String) (now : Instant)
    (stages : List Stage := Stage.standard) : Run :=
  ⟨{ request, peer, requestId, start := now }, .passing stages⟩

def response? (r : Run) : Option Response :=
  match r.phase with
  | .ended response => some response
  | _ => none

def isOver (r : Run) : Bool := r.response?.isSome

/-- The call that a run waits for. -/
def call? (r : Run) : Option BackendCall :=
  match r.phase with
  | .calling c _ => some c
  | _ => none

/-- The end of the time of the call that a run waits for. -/
def deadline? (r : Run) : Option Instant :=
  (r.call?.bind (·.guard)).map (·.deadline)

def remaining (r : Run) : List Stage :=
  match r.phase with
  | .passing rest | .calling _ rest => rest
  | .ended _ => []

/-- Takes note of a response. -/
def countResponse (m : Metrics) (x : Exchange) (r : Response) (now : Instant) : Metrics :=
  (m.count "gateway_http_requests_total"
    [("route", x.routeKey), ("method", x.request.method.text),
      ("status_code", toString r.status)]).observe
    ⟨"gateway_http_request_duration_seconds", [("route", x.routeKey)]⟩
    (Metrics.seconds (now - x.start))

/-- Ends a run with the response of its exchange. -/
def close (now : Instant) (g : Gateway) (x : Exchange) : Gateway × Run :=
  let response := x.decorate x.outcome
  let g := g.giveBack x.lease
  ({ g with metrics := countResponse g.metrics x response now },
    ⟨{ x with lease := none }, .ended response⟩)

/-- Goes on after a stage. -/
def after (now : Instant) (rest : List Stage) (p : Passage) : Gateway × Run :=
  match p.verdict with
  | .proceed => (p.gateway, ⟨p.exchange, .passing rest⟩)
  | .respond => close now p.gateway p.exchange
  | .refuse e => close now p.gateway (p.exchange.refuse e)
  | .await c => (p.gateway, ⟨p.exchange, .calling c rest⟩)

/-- Passes the next stage; a run that waits or has ended stays as it is. -/
def step (s : Surroundings) (g : Gateway) (r : Run) : Gateway × Run :=
  match r.phase with
  | .passing [] => close s.now g r.exchange
  | .passing (stage :: rest) => after s.now rest (stage.pass s g r.exchange)
  | _ => (g, r)

/-- Begins to take a lease where this comes next, if the registry has to be asked for it. -/
def beginLease? (now : Instant) (g : Gateway) (r : Run) : Option (Gateway × PendingLease) :=
  match r.phase with
  | .passing (.lease :: _) => r.exchange.resolved.bind fun x => g.beginLease? now x.route
  | _ => none

/-- Passes the stage that takes a lease when the registry has answered. -/
def endLease (s : Surroundings) (g : Gateway) (r : Run) (p : PendingLease) : Gateway × Run :=
  match r.phase with
  | .passing (.lease :: rest) => after s.now rest (Stage.endLease s g r.exchange p)
  | _ => (g, r)

/-- Passes stages until the run waits or has ended. -/
def drive (s : Surroundings) (g : Gateway) (r : Run) : Gateway × Run :=
  Nat.repeat (fun c => step s c.1 c.2) (r.remaining.length + 1) (g, r)

/-- Ends the call that a run waits for. -/
def answer (now : Instant) (g : Gateway) (r : Run) (a : Except GatewayError Response) :
    Gateway × Run :=
  match r.phase with
  | .calling c rest => after now rest (Stage.endCall now g r.exchange c a)
  | _ => (g, r)

/-- Ends the call that a run waits for, since its time is over. -/
def expire (now : Instant) (g : Gateway) (r : Run) : Gateway × Run :=
  match r.phase with
  | .calling c rest => after now rest (Stage.timeOut now g r.exchange c)
  | _ => (g, r)

/-- Gives a run up: a call that it waits for has failed, and its lease is given back. -/
def abandon (now : Instant) (g : Gateway) (r : Run) : Gateway :=
  match r.phase with
  | .calling c _ =>
      { g with breakers := (Qos.leave g.breakers c.guard false now).1 }.giveBack r.exchange.lease
  | _ => g.giveBack r.exchange.lease

end Run
end ApiGateway
