import ApiGateway.Proofs.Balancer.InFlight
import ApiGateway.Proofs.Run.Frames
import ApiGateway.Proofs.Run.History

/-!
# Dealings with backends

What a run does about backends, in the order in which it does it: it takes one on lease, calls it,
the call comes to its end, and the lease is given back. `dealings` tells this for each event of a
run, and `Replays` ties it to what is done to the load balancers: they are after an event what they
become when exactly these leases are taken and given back.
-/

namespace ApiGateway

/-- A step in the dealings of a run with backends. -/
inductive Dealing
  | took (lease : Lease)
  | called (request : Request)
  /-- The call has ended, in whatever way. -/
  | settled
  | gaveBack (lease : Lease)

/-- To give back what is held. -/
def Dealing.returned (l : Option Lease) : List Dealing :=
  (l.map gaveBack).toList

/-- What the end of a run adds, if a stage has ended it. -/
def Passage.closing (p : Passage) : List Dealing :=
  match p.verdict with
  | .proceed | .await _ => []
  | .respond | .refuse _ => Dealing.returned p.exchange.lease

/-- To take what is given on lease. -/
def Dealing.lent (result : Except GatewayError Lease) : List Dealing :=
  match result with
  | .ok l => [.took l]
  | .error _ => []

/-- What is done with a lease, if one was taken, before the request is addressed. -/
def Stage.useDealings (x : Exchange) (r : Route) (taken : Gateway × Except GatewayError Lease) :
    List Dealing :=
  match taken.2 with
  | .ok l =>
      match (useLease x r taken).verdict with
      | .proceed => .took l :: Dealing.returned x.lease
      | _ => [.took l, .gaveBack l]
  | .error _ => []

/-- What a stage does about backends. -/
def Stage.dealings (s : Surroundings) (stage : Stage) (g : Gateway) (x : Exchange) : List Dealing :=
  match stage with
  | .lease =>
      match x.resolved with
      | some r => useDealings x r.route (g.takeLease s r.route)
      | none => []
  | .backendCall =>
      match (beginCall s g x).verdict with
      | .await c => [.called c.request]
      | _ => []
  | .release => Dealing.returned x.lease
  | _ => []

/-- What the lease stage does about backends when the registry has answered. -/
def Stage.endDealings (s : Surroundings) (g : Gateway) (x : Exchange) (p : PendingLease) :
    List Dealing :=
  match x.resolved with
  | some r => useDealings x r.route (g.endLease s p)
  | none => []

namespace Run

/-- What a run does about backends at an event. -/
def dealings (g : Gateway) (r : Run) : Event → List Dealing
  | .pass s =>
      match r.phase with
      | .passing [] => Dealing.returned r.exchange.lease
      | .passing (stage :: _) =>
          stage.dealings s g r.exchange ++ (stage.pass s g r.exchange).closing
      | _ => []
  | .answer now a =>
      match r.phase with
      | .calling c _ => .settled :: (Stage.endCall now g r.exchange c a).closing
      | _ => []
  | .expire now =>
      match r.phase with
      | .calling c _ => .settled :: (Stage.timeOut now g r.exchange c).closing
      | _ => []

/-- What a run does about backends when the registry has answered. -/
def endDealings (s : Surroundings) (g : Gateway) (r : Run) (p : PendingLease) : List Dealing :=
  match r.phase with
  | .passing (.lease :: _) =>
      Stage.endDealings s g r.exchange p ++ (Stage.endLease s g r.exchange p).closing
  | _ => []

/-- What is done about backends when a run is given up. -/
def parting (r : Run) : List Dealing :=
  match r.phase with
  | .calling _ _ => .settled :: Dealing.returned r.exchange.lease
  | _ => Dealing.returned r.exchange.lease

end Run

/--
Load balancers before and after dealings: every lease in them is given by a load balancer, and every
return gives the lease back to where it was taken. To look up a load balancer, to take a lease in
vain and to get a new directory leave no trace in the dealings.
-/
inductive Replays : BalancerRegistry → List Dealing → BalancerRegistry → Prop
  | done (b : BalancerRegistry) :
      Replays b [] b
  | lookedUp
      {b b₁ b₂ : BalancerRegistry}
      {ds : List Dealing}
      {route : Route}
      {i : Nat} :
      b.get route = .ok (b₁, i) →
      Replays b₁ ds b₂ →
      Replays b ds b₂
  | failed
      {b b₁ b₂ : BalancerRegistry}
      {ds : List Dealing}
      {i : Nat}
      {read : Balancer → ServiceSource × Except GatewayError (List Service)}
      {e : GatewayError} :
      b.leaseBy i (fun x => x.choose (read x)) = (b₁, .error e) →
      Replays b₁ ds b₂ →
      Replays b ds b₂
  | took
      {b b₁ b₂ : BalancerRegistry}
      {ds : List Dealing}
      {i : Nat}
      {read : Balancer → ServiceSource × Except GatewayError (List Service)}
      {l : Lease} :
      b.leaseBy i (fun x => x.choose (read x)) = (b₁, .ok l) →
      Replays b₁ ds b₂ →
      Replays b (.took l :: ds) b₂
  | called
      {b b' : BalancerRegistry}
      {ds : List Dealing}
      {q : Request} :
      Replays b ds b' →
      Replays b (.called q :: ds) b'
  | settled
      {b b' : BalancerRegistry}
      {ds : List Dealing} :
      Replays b ds b' →
      Replays b (.settled :: ds) b'
  | gaveBack
      {b b' : BalancerRegistry}
      {ds : List Dealing}
      {l : Lease} :
      Replays (b.release l) ds b' →
      Replays b (.gaveBack l :: ds) b'
  | reset
      {b b' : BalancerRegistry}
      {ds : List Dealing}
      {directory : ServiceDirectory} :
      Replays (b.reset directory) ds b' →
      Replays b ds b'

namespace Replays

variable {b b' b'' : BalancerRegistry}
variable {ds ds' : List Dealing}

/-- One after the other. -/
theorem append
    (h : Replays b ds b')
    (h' : Replays b' ds' b'') :
    Replays b (ds ++ ds') b'' := by
  induction h with
  | done b => exact h'
  | lookedUp hget _ ih => exact .lookedUp hget (ih h')
  | failed hlease _ ih => exact .failed hlease (ih h')
  | took hlease _ ih => exact .took hlease (ih h')
  | called _ ih => exact .called (ih h')
  | settled _ ih => exact .settled (ih h')
  | gaveBack _ ih => exact .gaveBack (ih h')
  | reset _ ih => exact .reset (ih h')

theorem of_eq (h : b' = b) : Replays b [] b' :=
  h ▸ .done b

/-- A gateway to which a lease is given back, if there is one. -/
theorem giveBack (g : Gateway) (l : Option Lease) :
    Replays g.balancers (Dealing.returned l) (g.giveBack l).balancers := by
  cases l with
  | none => exact .done _
  | some l => exact .gaveBack (.done _)

end Replays

namespace Gateway

@[simp] theorem balancers_countDiscovered (g : Gateway) (i : Nat) (now : Instant) :
    (g.countDiscovered i now).balancers = g.balancers := by
  unfold countDiscovered
  split <;> rfl

/-- A lease is given by a load balancer, or there is none. -/
theorem replays_leaseBy
    (b : BalancerRegistry)
    (i : Nat)
    (read : Balancer → ServiceSource × Except GatewayError (List Service)) :
    Replays b
      (Dealing.lent (b.leaseBy i fun x => x.choose (read x)).2)
      (b.leaseBy i fun x => x.choose (read x)).1 := by
  cases h : b.leaseBy i fun x => x.choose (read x) with
  | mk b' result =>
      cases result with
      | error e => exact .failed h (.done b')
      | ok l => exact .took h (.done b')

variable (s : Surroundings)
variable (g : Gateway)

/-- What taking a lease does with the load balancers. -/
theorem replays_takeLease (r : Route) :
    Replays g.balancers (Dealing.lent (g.takeLease s r).2) (g.takeLease s r).1.balancers := by
  unfold takeLease
  cases hget : g.balancers.get r with
  | error e => exact .done _
  | ok p =>
      simp only [balancers_countDiscovered]
      exact .lookedUp hget (replays_leaseBy p.1 p.2 fun b => b.source.read s.registry s.now)

/-- To begin a lease only looks up a load balancer. -/
theorem replays_beginLease?
    {now : Instant}
    {r : Route}
    {g' : Gateway}
    {p : PendingLease}
    (h : g.beginLease? now r = some (g', p)) :
    Replays g.balancers [] g'.balancers := by
  unfold beginLease? at h
  cases hget : g.balancers.get r with
  | error e =>
      rw [hget] at h
      cases h
  | ok found =>
      rw [hget] at h
      obtain ⟨p', _, heq⟩ := Option.map_eq_some_iff.1 h
      cases heq
      exact .lookedUp hget (.done _)

theorem replays_endLease (p : PendingLease) :
    Replays g.balancers (Dealing.lent (g.endLease s p).2) (g.endLease s p).1.balancers := by
  unfold endLease
  simp only [balancers_countDiscovered]
  exact replays_leaseBy g.balancers p.balancer fun b => b.source.endRead p.read s.registry s.now

end Gateway

section Stages

variable (s : Surroundings)
variable (g : Gateway)
variable (x : Exchange)

/-- What is done with a lease, where taking it did with the load balancers what it tells. -/
theorem replays_useLease
    {b : BalancerRegistry}
    {r : Route}
    {taken : Gateway × Except GatewayError Lease}
    (h : Replays b (Dealing.lent taken.2) taken.1.balancers) :
    Replays b (Stage.useDealings x r taken) (Stage.useLease x r taken).gateway.balancers := by
  obtain ⟨g', result⟩ := taken
  cases result with
  | error e => exact h
  | ok l =>
      unfold Stage.useDealings Stage.useLease
      rcases Stage.address_cases (g'.countLease r.key l.service.endpoint) x r l with
        ⟨e, ha⟩ | ⟨q₀, q, _, _, ha⟩ <;>
        simp only [ha]
      · exact h.append (.gaveBack (.done _))
      · exact h.append (.giveBack (g'.countLease r.key l.service.endpoint) x.lease)

/-- The lease stage does with the load balancers what it tells. -/
theorem replays_takeLease :
    Replays g.balancers (Stage.lease.dealings s g x) (Stage.takeLease s g x).gateway.balancers := by
  unfold Stage.dealings Stage.takeLease
  rcases Stage.onRoute_cases g x _ with ⟨hx, h⟩ | ⟨r, hx, h⟩
  · rw [h, hx]
    exact .done _
  · rw [h, hx]
    exact replays_useLease x (g.replays_takeLease s r.route)

theorem replays_endLease (p : PendingLease) :
    Replays g.balancers (Stage.endDealings s g x p) (Stage.endLease s g x p).gateway.balancers := by
  unfold Stage.endDealings Stage.endLease
  rcases Stage.onRoute_cases g x _ with ⟨hx, h⟩ | ⟨r, hx, h⟩
  · rw [h, hx]
    exact .done _
  · rw [h, hx]
    exact replays_useLease x (g.replays_endLease s p)

/-- Every stage does with the load balancers what it tells. -/
theorem replays_pass (stage : Stage) :
    Replays g.balancers (stage.dealings s g x) (stage.pass s g x).gateway.balancers := by
  by_cases hstage : stage ∈ [Stage.lease, .backendCall, .release]
  · simp only [List.mem_cons, List.not_mem_nil, or_false] at hstage
    rcases hstage with rfl | rfl | rfl
    · exact replays_takeLease s g x
    · unfold Stage.dealings Stage.pass
      rcases Stage.beginCall_cases s g x with
        ⟨e, h⟩ | ⟨r, l, q, breakers, metrics, e, _, _, _, h⟩ |
          ⟨r, l, q, scope, breakers, guard, _, _, _, _, h⟩ <;>
        rw [h]
      · exact .done _
      · exact .done _
      · exact .called (.done _)
    · exact .giveBack g x.lease
  · have hnone : stage.dealings s g x = [] := by
      cases stage <;> first | rfl | exact absurd (by decide) hstage
    rw [hnone]
    exact .of_eq (Stage.aloof_pass s g x hstage).balancers

end Stages

namespace Run

/-- The end of a run gives back what the run still holds. -/
theorem replays_close (now : Instant) (g : Gateway) (x : Exchange) :
    Replays g.balancers (Dealing.returned x.lease) (close now g x).1.balancers :=
  .giveBack g x.lease

theorem replays_after (now : Instant) (rest : List Stage) (p : Passage) :
    Replays p.gateway.balancers p.closing (after now rest p).1.balancers := by
  unfold Passage.closing
  rcases after_cases now rest p with ⟨hv, h⟩ | ⟨c, hv, h⟩ | ⟨hv, h⟩ | ⟨e, hv, h⟩ <;> rw [hv, h]
  · exact .done _
  · exact .done _
  · exact replays_close now p.gateway p.exchange
  · exact replays_close now p.gateway (p.exchange.refuse e)

theorem balancers_endCall
    (now : Instant)
    (g : Gateway)
    (x : Exchange)
    (c : BackendCall)
    (a : Except GatewayError Response) :
    (Stage.endCall now g x c a).gateway.balancers = g.balancers := by
  cases a <;> rfl

/-- A run does with the load balancers what its dealings tell. -/
theorem replays_meet (g : Gateway) (r : Run) (e : Event) :
    Replays g.balancers (r.dealings g e) (r.meet g e).1.balancers := by
  obtain ⟨x, phase⟩ := r
  cases e with
  | pass s =>
      cases phase with
      | passing rest =>
          cases rest with
          | nil => exact replays_close s.now g x
          | cons stage rest =>
              exact (replays_pass s g x stage).append
                (replays_after s.now rest (stage.pass s g x))
      | calling c rest => exact .done _
      | ended response => exact .done _
  | answer now a =>
      cases phase with
      | passing rest => exact .done _
      | calling c rest =>
          have h := replays_after now rest (Stage.endCall now g x c a)
          rw [balancers_endCall] at h
          exact .settled h
      | ended response => exact .done _
  | expire now =>
      cases phase with
      | passing rest => exact .done _
      | calling c rest =>
          have h := replays_after now rest (Stage.timeOut now g x c)
          unfold Stage.timeOut at h
          rw [balancers_endCall] at h
          exact .settled h
      | ended response => exact .done _

/-- To begin a lease only looks up a load balancer. -/
theorem replays_beginLease?
    {now : Instant}
    {g g' : Gateway}
    {r : Run}
    {p : PendingLease}
    (h : r.beginLease? now g = some (g', p)) :
    Replays g.balancers [] g'.balancers := by
  unfold beginLease? at h
  split at h
  · obtain ⟨x, _, h⟩ := Option.bind_eq_some_iff.1 h
    exact g.replays_beginLease? h
  · cases h

/-- The answer of the registry leads on from the lease stage, and means nothing elsewhere. -/
theorem endLease_cases (s : Surroundings) (g : Gateway) (r : Run) (p : PendingLease) :
    (∃ x rest, r = ⟨x, .passing (.lease :: rest)⟩) ∨
    (r.endLease s g p = (g, r) ∧ r.endDealings s g p = []) := by
  obtain ⟨x, phase⟩ := r
  cases phase with
  | passing stages =>
      cases stages with
      | nil => exact Or.inr ⟨rfl, rfl⟩
      | cons stage rest =>
          cases stage with
          | lease => exact Or.inl ⟨x, rest, rfl⟩
          | _ => exact Or.inr ⟨rfl, rfl⟩
  | calling c rest => exact Or.inr ⟨rfl, rfl⟩
  | ended response => exact Or.inr ⟨rfl, rfl⟩

/-- A run whose lease had to wait does with the load balancers what its dealings tell. -/
theorem replays_endLease (s : Surroundings) (g : Gateway) (r : Run) (p : PendingLease) :
    Replays g.balancers (r.endDealings s g p) (r.endLease s g p).1.balancers := by
  rcases endLease_cases s g r p with ⟨x, rest, rfl⟩ | ⟨h, hnone⟩
  · exact (ApiGateway.replays_endLease s g x p).append
      (replays_after s.now rest (Stage.endLease s g x p))
  · rw [h, hnone]
    exact .done _

/-- A run that is given up does with the load balancers what its parting tells. -/
theorem replays_abandon (now : Instant) (g : Gateway) (r : Run) :
    Replays g.balancers r.parting (r.abandon now g).balancers := by
  obtain ⟨x, phase⟩ := r
  cases phase with
  | passing rest => exact .giveBack g x.lease
  | calling c rest =>
      exact .settled
        (.giveBack { g with breakers := (Qos.leave g.breakers c.guard false now).1 } x.lease)
  | ended response => exact .giveBack g x.lease

end Run
namespace Dealing

/-- How often an endpoint of a load balancer is taken on lease. -/
def taken (i : Nat) (endpoint : String) : List Dealing → Nat
  | [] => 0
  | took l :: ds => l.countAt i endpoint + taken i endpoint ds
  | called _ :: ds => taken i endpoint ds
  | settled :: ds => taken i endpoint ds
  | gaveBack _ :: ds => taken i endpoint ds

/-- How often an endpoint of a load balancer is given back. -/
def given (i : Nat) (endpoint : String) : List Dealing → Nat
  | [] => 0
  | took _ :: ds => given i endpoint ds
  | called _ :: ds => given i endpoint ds
  | settled :: ds => given i endpoint ds
  | gaveBack l :: ds => l.countAt i endpoint + given i endpoint ds

theorem taken_append (i : Nat) (endpoint : String) (ds ds' : List Dealing) :
    taken i endpoint (ds ++ ds') = taken i endpoint ds + taken i endpoint ds' := by
  induction ds with
  | nil => exact (Nat.zero_add _).symm
  | cons d ds ih => cases d <;> simp only [List.cons_append, taken, ih, Nat.add_assoc]

theorem given_append (i : Nat) (endpoint : String) (ds ds' : List Dealing) :
    given i endpoint (ds ++ ds') = given i endpoint ds + given i endpoint ds' := by
  induction ds with
  | nil => exact (Nat.zero_add _).symm
  | cons d ds ih => cases d <;> simp only [List.cons_append, given, ih, Nat.add_assoc]

end Dealing

namespace Replays

variable {b b' : BalancerRegistry}
variable {ds : List Dealing}

/-- Load balancers are never lost, and leases name those that there are. -/
theorem size_le
    (h : Replays b ds b') :
    b.balancers.size ≤ b'.balancers.size ∧
      ∀ l, .took l ∈ ds → l.balancer < b'.balancers.size := by
  induction h with
  | done b => exact ⟨Nat.le_refl _, nofun⟩
  | lookedUp hget _ ih => exact ⟨Nat.le_trans (BalancerRegistry.size_get_le hget) ih.1, ih.2⟩
  | @failed b b₁ b₂ ds i read e hlease _ ih =>
      rcases b.leaseBy_cases i read with ⟨r', e', hl, hsize, _⟩ | ⟨r', l, hl, _⟩
      · rw [hlease] at hl
        cases hl
        exact ⟨hsize ▸ ih.1, ih.2⟩
      · rw [hlease] at hl
        cases hl
  | @took b b₁ b₂ ds i read l hlease _ ih =>
      rcases b.leaseBy_cases i read with ⟨r', e', hl, _⟩ | ⟨r', l', hl, hlt, hsize, _⟩
      · rw [hlease] at hl
        cases hl
      · rw [hlease] at hl
        cases hl
        refine ⟨hsize ▸ ih.1, ?_⟩
        intro l' hl'
        rcases List.mem_cons.1 hl' with heq | hl'
        · cases heq
          exact Nat.lt_of_lt_of_le hlt (hsize ▸ ih.1)
        · exact ih.2 l' hl'
  | called _ ih =>
      refine ⟨ih.1, fun l hl => ih.2 l ?_⟩
      simpa using hl
  | settled _ ih =>
      refine ⟨ih.1, fun l hl => ih.2 l ?_⟩
      simpa using hl
  | @gaveBack b b' ds l _ ih =>
      refine ⟨BalancerRegistry.size_release b l ▸ ih.1, fun l hl => ih.2 l ?_⟩
      simpa using hl
  | reset _ ih => exact ih

/--
The number of calls in flight after dealings, where it is kept: what was in flight before, with what
was taken and without what was given back, if nothing is given back that was not taken.
-/
theorem inFlight?
    (h : Replays b ds b')
    {i n : Nat}
    {endpoint : String}
    (hcount : ∀ m, b.inFlight? i endpoint = some m → m = n)
    (hnew : b.balancers.size ≤ i → n = 0)
    (hfair : ∀ front, front <+: ds →
      Dealing.given i endpoint front ≤ n + Dealing.taken i endpoint front) :
    ∀ m, b'.inFlight? i endpoint = some m →
      m + Dealing.given i endpoint ds = n + Dealing.taken i endpoint ds := by
  -- What is fair with one more dealing in front is fair after it.
  have hfront : ∀ {d : Dealing} {ds front : List Dealing}, front <+: ds → d :: front <+: d :: ds :=
    fun h => List.cons_prefix_cons.2 ⟨rfl, h⟩
  induction h generalizing n with
  | done b => exact hcount
  | @lookedUp b b₁ b₂ ds route j hget _ ih =>
      refine ih (fun m hm => ?_) (fun hi => ?_) hfair
      · rcases BalancerRegistry.inFlight?_get hget hm with hm | ⟨hsize, rfl⟩
        · exact hcount m hm
        · exact (hnew hsize).symm
      · exact hnew (Nat.le_trans (BalancerRegistry.size_get_le hget) hi)
  | @failed b b₁ b₂ ds j read e hlease _ ih =>
      rcases b.leaseBy_cases j read with ⟨r', e', hl, hsize, hsame⟩ | ⟨r', l, hl, _⟩
      · rw [hlease] at hl
        cases hl
        refine ih (fun m hm => ?_) (fun hi => ?_) hfair
        · rw [hsame] at hm
          exact hcount m hm
        · exact hnew (hsize ▸ hi)
      · rw [hlease] at hl
        cases hl
  | @took b b₁ b₂ ds j read l hlease _ ih =>
      rcases b.leaseBy_cases j read with ⟨r', e', hl, _⟩ | ⟨r', l', hl, hlt, hsize, hmore⟩
      · rw [hlease] at hl
        cases hl
      · rw [hlease] at hl
        cases hl
        intro m hm
        have h := ih (n := n + l.countAt i endpoint) ?_ ?_ ?_ m hm
        · simp only [Dealing.given, Dealing.taken]
          omega
        · intro m hm
          rw [hmore] at hm
          obtain ⟨m₁, hm₁, rfl⟩ := Option.map_eq_some_iff.1 hm
          rw [hcount m₁ hm₁]
        · intro hi
          have hne : l.balancer ≠ i := Nat.ne_of_lt (Nat.lt_of_lt_of_le hlt (hsize ▸ hi))
          rw [Lease.countAt_of_ne hne, hnew (hsize ▸ hi)]
        · intro front hbegins
          have h := hfair _ (hfront hbegins)
          simp only [Dealing.given, Dealing.taken] at h
          omega
  | @called b b' ds q _ ih =>
      exact ih hcount hnew fun front hbegins => hfair (.called q :: front) (hfront hbegins)
  | @settled b b' ds _ ih =>
      exact ih hcount hnew fun front hbegins => hfair (.settled :: front) (hfront hbegins)
  | @gaveBack b b' ds l _ ih =>
      have hheld := hfair [.gaveBack l] (hfront List.nil_prefix)
      simp only [Dealing.given, Dealing.taken] at hheld
      intro m hm
      have h := ih (n := n - l.countAt i endpoint) ?_ ?_ ?_ m hm
      · simp only [Dealing.given, Dealing.taken]
        omega
      · intro m hm
        rw [BalancerRegistry.inFlight?_release] at hm
        obtain ⟨m₁, hm₁, rfl⟩ := Option.map_eq_some_iff.1 hm
        rw [hcount m₁ hm₁]
      · intro hi
        rw [BalancerRegistry.size_release] at hi
        rw [hnew hi, Nat.zero_sub]
      · intro front hbegins
        have h := hfair _ (hfront hbegins)
        simp only [Dealing.given, Dealing.taken] at h
        omega
  | reset _ ih => exact ih hcount hnew hfair

end Replays
end ApiGateway
