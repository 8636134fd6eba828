import ApiGateway.Proofs.Balancer.Outline
import ApiGateway.Proofs.Run.Dealings

/-!
# Look-ups of load balancers

A run looks up a load balancer at its lease, and nowhere else: seen in outline, all else that it
does leaves the load balancers as they are. Where the registry has to be asked for the backends, the
look-up belongs to the beginning of the lease.
-/

namespace ApiGateway

/-- A registry when the load balancer of a route is looked up, if one is sought. -/
def BalancerRegistry.sought (b : BalancerRegistry) : Option Route → BalancerRegistry
  | none => b
  | some route => (b.ask .whole route).1

namespace Gateway

variable (s : Surroundings)
variable (g : Gateway)

theorem outline_giveBack (l : Option Lease) :
    (g.giveBack l).balancers.outline = g.balancers.outline := by
  cases l with
  | none => rfl
  | some l => exact g.balancers.outline_release l

/-- What taking a lease does with the load balancers is to look one up. -/
theorem outline_takeLease (route : Route) :
    (g.takeLease s route).1.balancers.outline = g.balancers.outline.sought (some route) := by
  rw [BalancerRegistry.sought, BalancerRegistry.ask_outline]
  unfold takeLease BalancerRegistry.ask BalancerRegistry.told
  cases g.balancers.get route with
  | error e => rfl
  | ok found =>
      dsimp only
      rw [balancers_countDiscovered]
      exact found.1.outline_lease found.2 s.registry s.now

theorem outline_endLease (p : PendingLease) :
    (g.endLease s p).1.balancers.outline = g.balancers.outline := by
  unfold endLease
  dsimp only
  rw [balancers_countDiscovered]
  exact g.balancers.outline_endLease p s.registry s.now

theorem outline_beginLease?
    {now : Instant}
    {route : Route}
    {g' : Gateway}
    {p : PendingLease}
    (h : g.beginLease? now route = some (g', p)) :
    g'.balancers.outline = g.balancers.outline.sought (some route) := by
  rw [BalancerRegistry.sought, BalancerRegistry.ask_outline]
  unfold beginLease? at h
  unfold BalancerRegistry.ask BalancerRegistry.told
  cases hget : g.balancers.get route with
  | error e =>
      rw [hget] at h
      cases h
  | ok found =>
      rw [hget] at h
      obtain ⟨p', _, heq⟩ := Option.map_eq_some_iff.1 h
      cases heq
      rfl

end Gateway

section Stages

variable (s : Surroundings)
variable (g : Gateway)
variable (x : Exchange)

theorem outline_useLease
    (r : Route)
    (taken : Gateway × Except GatewayError Lease) :
    (Stage.useLease x r taken).gateway.balancers.outline = taken.1.balancers.outline := by
  obtain ⟨g', result⟩ := taken
  cases result with
  | error e => rfl
  | ok l =>
      unfold Stage.useLease
      rcases Stage.address_cases (g'.countLease r.key l.service.endpoint) x r l with
        ⟨e, h⟩ | ⟨q₀, q, _, _, h⟩ <;>
        simp only [h]
      · exact (g'.countLease r.key l.service.endpoint).outline_giveBack (some l)
      · exact (g'.countLease r.key l.service.endpoint).outline_giveBack x.lease

/-- The lease stage looks up the load balancer of the route of its exchange. -/
theorem outline_takeLease :
    (Stage.takeLease s g x).gateway.balancers.outline =
      g.balancers.outline.sought (x.resolved.map (·.route)) := by
  unfold Stage.takeLease
  rcases Stage.onRoute_cases g x _ with ⟨hx, h⟩ | ⟨r, hx, h⟩
  · rw [h, hx]
    rfl
  · rw [h, hx, outline_useLease]
    exact g.outline_takeLease s r.route

theorem outline_endLease (p : PendingLease) :
    (Stage.endLease s g x p).gateway.balancers.outline = g.balancers.outline := by
  unfold Stage.endLease
  rcases Stage.onRoute_cases g x _ with ⟨_, h⟩ | ⟨r, _, h⟩
  · rw [h]
    rfl
  · rw [h, outline_useLease]
    exact g.outline_endLease s p

/-- All other stages look up nothing. -/
theorem outline_pass
    {stage : Stage}
    (hstage : stage ≠ .lease) :
    (stage.pass s g x).gateway.balancers.outline = g.balancers.outline := by
  by_cases hdeals : stage ∈ [Stage.lease, .backendCall, .release]
  · simp only [List.mem_cons, List.not_mem_nil, or_false] at hdeals
    rcases hdeals with rfl | rfl | rfl
    · exact absurd rfl hstage
    · unfold Stage.pass
      rcases Stage.beginCall_cases s g x with
        ⟨e, h⟩ | ⟨r, l, q, breakers, metrics, e, _, _, _, h⟩ |
          ⟨r, l, q, scope, breakers, guard, _, _, _, _, h⟩ <;>
        rw [h] <;> rfl
    · exact g.outline_giveBack x.lease
  · exact congrArg BalancerRegistry.outline (Stage.aloof_pass s g x hdeals).balancers

end Stages

namespace Run

/-- The route whose load balancer a run needs for its next stage, if this is the lease. -/
def seeks? (r : Run) : Option Route :=
  match r.phase with
  | .passing (.lease :: _) => r.exchange.resolved.map (·.route)
  | _ => none

/-- The route whose load balancer a run looks up at an event. -/
def seeksAt? (r : Run) : Event → Option Route
  | .pass _ => r.seeks?
  | _ => none

theorem outline_close (now : Instant) (g : Gateway) (x : Exchange) :
    (close now g x).1.balancers.outline = g.balancers.outline :=
  g.outline_giveBack x.lease

theorem outline_after (now : Instant) (rest : List Stage) (p : Passage) :
    (after now rest p).1.balancers.outline = p.gateway.balancers.outline := by
  rcases after_cases now rest p with ⟨_, h⟩ | ⟨c, _, h⟩ | ⟨_, h⟩ | ⟨e, _, h⟩ <;> rw [h]
  · exact outline_close now p.gateway p.exchange
  · exact outline_close now p.gateway (p.exchange.refuse e)

/-- All that a run does with the load balancers at an event is to look one up, if it is sought. -/
theorem outline_meet (g : Gateway) (r : Run) (e : Event) :
    (r.meet g e).1.balancers.outline = g.balancers.outline.sought (r.seeksAt? e) := by
  obtain ⟨x, phase⟩ := r
  cases e with
  | pass s =>
      cases phase with
      | passing rest =>
          cases rest with
          | nil => exact outline_close s.now g x
          | cons stage rest =>
              refine (outline_after s.now rest (stage.pass s g x)).trans ?_
              by_cases hstage : stage = .lease
              · subst hstage
                exact outline_takeLease s g x
              · have hnone : seeks? ⟨x, .passing (stage :: rest)⟩ = none := by
                  cases stage <;> first | rfl | exact absurd rfl hstage
                rw [seeksAt?, hnone]
                exact outline_pass s g x hstage
      | calling c rest => rfl
      | ended response => rfl
  | answer now a =>
      cases phase with
      | calling c rest =>
          refine (outline_after now rest (Stage.endCall now g x c a)).trans ?_
          rw [balancers_endCall]
          rfl
      | _ => rfl
  | expire now =>
      cases phase with
      | calling c rest =>
          refine (outline_after now rest (Stage.timeOut now g x c)).trans ?_
          unfold Stage.timeOut
          rw [balancers_endCall]
          rfl
      | _ => rfl

/-- The beginning of a lease looks up the load balancer of the route. -/
theorem outline_beginLease?
    {now : Instant}
    {g g' : Gateway}
    {r : Run}
    {p : PendingLease}
    (h : r.beginLease? now g = some (g', p)) :
    g'.balancers.outline = g.balancers.outline.sought r.seeks? := by
  unfold beginLease? at h
  split at h
  · rename_i rest hphase
    obtain ⟨x, hx, h⟩ := Option.bind_eq_some_iff.1 h
    have hseeks : r.seeks? = some x.route := by
      unfold seeks?
      simp only [hphase, hx, Option.map_some]
    rw [hseeks]
    exact g.outline_beginLease? h
  · cases h

/-- The end of a lease that was begun looks up nothing. -/
theorem outline_endLease (s : Surroundings) (g : Gateway) (r : Run) (p : PendingLease) :
    (r.endLease s g p).1.balancers.outline = g.balancers.outline := by
  rcases endLease_cases s g r p with ⟨x, rest, rfl⟩ | ⟨h, _⟩
  · exact (outline_after s.now rest (Stage.endLease s g x p)).trans
      (ApiGateway.outline_endLease s g x p)
  · rw [h]

theorem outline_abandon (now : Instant) (g : Gateway) (r : Run) :
    (r.abandon now g).balancers.outline = g.balancers.outline := by
  obtain ⟨x, phase⟩ := r
  cases phase with
  | calling c rest =>
      exact Gateway.outline_giveBack
        { g with breakers := (Qos.leave g.breakers c.guard false now).1 } x.lease
  | _ => exact g.outline_giveBack x.lease

end Run
end ApiGateway
