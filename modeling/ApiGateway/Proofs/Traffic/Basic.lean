import ApiGateway.Gateway.Administration
import ApiGateway.Proofs.Run.History

/-!
# Traffic

A gateway with all requests that were ever made to it. At any time another request may arrive, a
pending one may meet an event or be given up, since its caller has gone away, and the gateway may
be given a new configuration, swept or asked by an operator. A new configuration is taken as a whole
or in parts, with other events between them.

Where the registry has to be asked for the backends of a route, the stage that takes a lease has two
parts as well, and `endLease_of_beginLease?` says that they make up the stage if nothing comes
between them.
-/

namespace ApiGateway

/-- A read that asks the registry is the beginning and the end of one that does. -/
theorem ServiceSource.read_of_beginRead
    {source : ServiceSource}
    {now : Instant}
    {p : RegisteredService.PendingRead}
    (h : source.beginRead now = .error p)
    (exchange : Consul.Exchange) :
    source.read exchange now = source.endRead p exchange now := by
  unfold read
  rw [h]

/-- The load balancer that began a lease ends it as if it had taken it at once. -/
theorem BalancerRegistry.endLease_of_beginLease?
    {r : BalancerRegistry}
    {i : Nat}
    {now : Instant}
    {p : PendingLease}
    (exchange : Consul.Exchange)
    (h : r.beginLease? i now = some p) :
    p.balancer = i ∧ r.endLease p exchange now = r.lease i exchange now := by
  unfold beginLease? at h
  obtain ⟨b, hb, h⟩ := Option.bind_eq_some_iff.1 h
  split at h
  · cases h
  · rename_i read hread
    cases h
    refine ⟨rfl, ?_⟩
    unfold endLease lease leaseBy Balancer.endLease Balancer.lease
    simp only [hb, ServiceSource.read_of_beginRead hread]

/-- A lease that waits for the registry ends as if it had been taken at once. -/
theorem Gateway.endLease_of_beginLease?
    {s : Surroundings}
    {g g' : Gateway}
    {r : Route}
    {p : PendingLease}
    (h : g.beginLease? s.now r = some (g', p)) :
    g'.endLease s p = g.takeLease s r := by
  unfold beginLease? at h
  unfold takeLease
  cases hget : g.balancers.get r with
  | error e =>
      rw [hget] at h
      cases h
  | ok found =>
      obtain ⟨b, i⟩ := found
      rw [hget] at h
      obtain ⟨p', hp, heq⟩ := Option.map_eq_some_iff.1 h
      cases heq
      have hlease := BalancerRegistry.endLease_of_beginLease? s.registry hp
      simp only [endLease, hlease.1, hlease.2]

/-- The two parts of the lease stage are the whole of it. -/
theorem Run.endLease_of_beginLease?
    {s : Surroundings}
    {g g' : Gateway}
    {r : Run}
    {p : PendingLease}
    (h : r.beginLease? s.now g = some (g', p)) :
    r.endLease s g' p = r.step s g := by
  unfold beginLease? at h
  split at h
  · rename_i rest hphase
    obtain ⟨route, hx, h⟩ := Option.bind_eq_some_iff.1 h
    have hstage : Stage.endLease s g' r.exchange p = Stage.takeLease s g r.exchange := by
      unfold Stage.endLease Stage.takeLease Passage.onRoute Exchange.route
      rw [hx]
      exact congrArg (Stage.useLease r.exchange route.route) (Gateway.endLease_of_beginLease? h)
    unfold endLease step
    rw [hphase]
    exact congrArg (after s.now rest) hstage
  · cases h

/-- A gateway and the runs of its requests in the order of their arrival. -/
structure Traffic where
  gateway : Gateway
  /-- A run that was given up is gone, but its place is kept. -/
  runs : List (Option Run) := []
  /-- The leases for which the registry was asked. -/
  begun : Nat → Option PendingLease := fun _ => none

namespace Traffic

/-- A gateway to which no request was made yet. -/
def new (g : Gateway) : Traffic := { gateway := g }

/-- What happens at a gateway. -/
inductive Event
  | arrive (request : Request) (peer : SocketAddress) (requestId : String) (now : Instant)
  | beginLease (id : Nat) (now : Instant)
  | meet (id : Nat) (event : Run.Event)
  | abandon (id : Nat) (now : Instant)
  | reload (config : Config.Gateway)
  | prepare (config : Config.Gateway)
  | putTable (table : RouteTable)
  | putConfig (config : Config.Gateway)
  | resetBalancers (directory : ServiceDirectory)
  | clearBreakers
  | sweep (before now : Instant)
  | administer (exposition : String) (method : Method) (path : String)

/-- The run of a request, ended or not, unless it was given up. -/
def run? (t : Traffic) (id : Nat) : Option Run :=
  t.runs[id]?.join

/-- The run of a request that has not ended and was not given up. -/
def pending? (t : Traffic) (id : Nat) : Option Run :=
  (t.runs[id]?.join).filter fun r => ! r.isOver

/-- The leases for which the registry was asked when that of a request changes. -/
def noting (t : Traffic) (id : Nat) (p : Option PendingLease) : Nat → Option PendingLease :=
  fun other => if other = id then p else t.begun other

/-- Asks the registry for a run that comes to its lease, if this has to be done. -/
def ask (t : Traffic) (id : Nat) (now : Instant) (r : Run) : Traffic :=
  match t.begun id, r.beginLease? now t.gateway with
  | none, some (gateway, p) => { t with gateway, begun := t.noting id (some p) }
  | _, _ => t

/-- Another state of the gateway and of one run. -/
def put (t : Traffic) (id : Nat) (next : Gateway × Run) : Traffic :=
  { t with gateway := next.1, runs := t.runs.set id (some next.2) }

/-- What an event makes of a run; if the registry was asked for it, the run goes on from there. -/
def turn (t : Traffic) (id : Nat) (r : Run) (e : Run.Event) : Traffic :=
  match e, t.begun id with
  | .pass s, some p => { t.put id (r.endLease s t.gateway p) with begun := t.noting id none }
  | e, _ => t.put id (r.meet t.gateway e)

def meet (t : Traffic) : Event → Traffic
  | .arrive request peer requestId now =>
      { t with runs := t.runs ++ [some (.start request peer requestId now)] }
  | .beginLease id now =>
      match t.pending? id with
      | some r => t.ask id now r
      | none => t
  | .meet id e =>
      match t.pending? id with
      | some r => t.turn id r e
      | none => t
  | .abandon id now =>
      match t.pending? id with
      | some r => ⟨r.abandon now t.gateway, t.runs.set id none, t.noting id none⟩
      | none => t
  | .reload config => { t with gateway := (t.gateway.reload config).1 }
  | .prepare config => { t with gateway := (t.gateway.prepare config).1 }
  | .putTable table => { t with gateway := { t.gateway with table } }
  | .putConfig config => { t with gateway := { t.gateway with config } }
  | .resetBalancers directory =>
      { t with gateway :=
        { t.gateway with balancers := t.gateway.balancers.reset directory } }
  | .clearBreakers =>
      { t with gateway := { t.gateway with breakers := t.gateway.breakers.clear } }
  | .sweep before now => { t with gateway := t.gateway.sweep before now }
  | .administer exposition method path =>
      { t with gateway := (t.gateway.administer exposition method path).1 }

def after (t : Traffic) (events : List Event) : Traffic :=
  events.foldl meet t

section Pending

variable {t : Traffic}
variable {id : Nat}
variable {r : Run}

/-- A run that is pending has its place and is not over. -/
theorem pending?_eq_some_iff :
    t.pending? id = some r ↔ t.runs[id]? = some (some r) ∧ r.isOver = false := by
  rw [pending?, Option.filter_eq_some_iff, Option.join_eq_some_iff, Bool.not_eq_true']

theorem lt_of_pending?_eq_some
    (h : t.pending? id = some r) :
    id < t.runs.length :=
  (List.getElem?_eq_some_iff.1 (pending?_eq_some_iff.1 h).1).1

theorem pending?_eq_run? : t.pending? id = (t.run? id).filter fun r => ! r.isOver :=
  rfl

/-- The runs where one run takes the place of another. -/
theorem run?_set
    (g : Gateway)
    (o : Option Run)
    (begun : Nat → Option PendingLease)
    (hid : id < t.runs.length)
    (other : Nat) :
    (Traffic.mk g (t.runs.set id o) begun).run? other = if id = other then o else t.run? other := by
  unfold run?
  rw [List.getElem?_set]
  by_cases h : id = other
  · simp only [if_pos h, if_pos hid, Option.join_some]
  · simp only [if_neg h]

/-- The runs after an arrival. -/
theorem run?_append
    (r : Run)
    (other : Nat) :
    ({ t with runs := t.runs ++ [some r] } : Traffic).run? other =
      if other = t.runs.length then some r else t.run? other := by
  unfold run?
  by_cases h : other = t.runs.length
  · subst h
    simp
  · rw [if_neg h]
    rcases Nat.lt_or_gt_of_ne h with hlt | hgt
    · rw [List.getElem?_append_left hlt]
    · rw [List.getElem?_eq_none (Nat.le_of_lt hgt),
        List.getElem?_eq_none (by rw [List.length_append]; exact hgt)]

/-- The pending runs where one run takes the place of another. -/
theorem pending?_set
    (g : Gateway)
    (o : Option Run)
    (begun : Nat → Option PendingLease)
    (hid : id < t.runs.length)
    (other : Nat) :
    (Traffic.mk g (t.runs.set id o) begun).pending? other =
      if id = other then o.filter (fun r => ! r.isOver) else t.pending? other := by
  rw [pending?_eq_run?, run?_set g o begun hid]
  by_cases h : id = other
  · rw [if_pos h, if_pos h]
  · rw [if_neg h, if_neg h, pending?_eq_run?]

/-- The pending runs after an arrival. -/
theorem pending?_append
    (r : Run)
    (hr : r.isOver = false)
    (other : Nat) :
    ({ t with runs := t.runs ++ [some r] } : Traffic).pending? other =
      if other = t.runs.length then some r else t.pending? other := by
  rw [pending?_eq_run?, run?_append]
  by_cases h : other = t.runs.length
  · rw [if_pos h, if_pos h, Option.filter_some, hr]
    rfl
  · rw [if_neg h, if_neg h, pending?_eq_run?]

end Pending

end Traffic
end ApiGateway
