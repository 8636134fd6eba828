import ApiGateway.Gateway.Administration
import ApiGateway.Proofs.Run.History

/-!
# What requests find set up

The configuration of a gateway, its table and the number of the next table are for requests to read:
no stage, no end of a run and no page for operators changes them.
-/

namespace ApiGateway

/-- What a gateway is set up with. -/
structure Gateway.Setup where
  config : Config.Gateway
  table : RouteTable
  nextGeneration : Nat

/-- What a gateway is set up with. -/
def Gateway.setup (g : Gateway) : Setup := ⟨g.config, g.table, g.nextGeneration⟩

namespace Gateway

variable (s : Surroundings)
variable (g : Gateway)

theorem setup_giveBack (l : Option Lease) : (g.giveBack l).setup = g.setup := by
  cases l <;> rfl

theorem setup_countDiscovered (i : Nat) (now : Instant) :
    (g.countDiscovered i now).setup = g.setup := by
  unfold countDiscovered
  split <;> rfl

theorem setup_takeLease (route : Route) : (g.takeLease s route).1.setup = g.setup := by
  unfold takeLease
  split
  · rfl
  · exact setup_countDiscovered _ _ _

theorem setup_endLease (p : PendingLease) : (g.endLease s p).1.setup = g.setup :=
  setup_countDiscovered _ _ _

theorem setup_beginLease?
    {now : Instant}
    {route : Route}
    {g' : Gateway}
    {p : PendingLease}
    (h : g.beginLease? now route = some (g', p)) :
    g'.setup = g.setup := by
  unfold beginLease? at h
  split at h
  · cases h
  · obtain ⟨p', _, heq⟩ := Option.map_eq_some_iff.1 h
    cases heq
    rfl

theorem setup_administer
    (exposition : String)
    (method : Method)
    (path : String) :
    (g.administer exposition method path).1.setup = g.setup := by
  unfold administer administerRegion
  repeat' split
  all_goals rfl

end Gateway

namespace Stage

variable (s : Surroundings)
variable (g : Gateway)
variable (x : Exchange)

theorem setup_useLease
    (r : Route)
    (taken : Gateway × Except GatewayError Lease) :
    (useLease x r taken).gateway.setup = taken.1.setup := by
  obtain ⟨g', result⟩ := taken
  cases result with
  | error e => rfl
  | ok l =>
      unfold useLease
      rcases address_cases (g'.countLease r.key l.service.endpoint) x r l with
        ⟨e, h⟩ | ⟨q₀, q, _, _, h⟩ <;>
        simp only [h]
      · exact Gateway.setup_giveBack _ _
      · exact Gateway.setup_giveBack _ _

theorem setup_endLease (p : PendingLease) : (endLease s g x p).gateway.setup = g.setup := by
  unfold endLease
  rcases onRoute_cases g x _ with ⟨_, h⟩ | ⟨r, _, h⟩
  · rw [h]
    rfl
  · rw [h, setup_useLease]
    exact g.setup_endLease s p

/-- No stage changes what the gateway is set up with. -/
theorem setup_pass (stage : Stage) : (stage.pass s g x).gateway.setup = g.setup := by
  cases stage with
  | routeResolution =>
      rcases resolveRoute_cases g x with ⟨e, _, h⟩ | ⟨r, _, h⟩ <;> rw [pass, h] <;> rfl
  | rateLimit =>
      rcases limitRate_cases s g x with
        ⟨_, h⟩ | ⟨r, _, _, h⟩ | ⟨r, p, l, d, _, _, _, _, ⟨_, h⟩ | ⟨_, h⟩⟩ <;>
        rw [pass, h] <;> rfl
  | authentication =>
      rcases authenticate_cases s g x with
        ⟨_, h⟩ | ⟨r, _, _, h⟩ | ⟨r, p, claims, _, _, _, h⟩ | ⟨r, p, e, _, _, _, h⟩ <;>
        rw [pass, h] <;> rfl
  | authorisation =>
      rcases authorise_cases g x with
        ⟨_, h⟩ | ⟨r, _, _, h⟩ | ⟨r, p, _, _, _, h⟩ | ⟨r, p, claims, _, _, _, _, h⟩ |
          ⟨r, p, claims, e, _, _, _, _, h⟩ <;>
        rw [pass, h] <;> rfl
  | cacheLookup =>
      rcases lookUp_cases s g x with
        ⟨_, h⟩ | ⟨r, _, _, h⟩ | ⟨r, p, e, _, _, _, _, h⟩ | ⟨r, p, key, hit, _, _, _, _, _, h⟩ |
          ⟨r, p, key, _, _, _, _, _, h⟩ <;>
        rw [pass, h] <;> rfl
  | requestConstruction =>
      rcases construct_cases s g x with ⟨q, _, h⟩ | ⟨e, _, h⟩ <;> rw [h] <;> rfl
  | lease =>
      unfold pass takeLease
      rcases onRoute_cases g x _ with ⟨_, h⟩ | ⟨r, _, h⟩
      · rw [h]
        rfl
      · rw [h, setup_useLease]
        exact g.setup_takeLease s r.route
  | backendCall =>
      unfold pass
      rcases beginCall_cases s g x with
        ⟨e, h⟩ | ⟨r, l, q, breakers, metrics, e, _, _, _, h⟩ |
          ⟨r, l, q, scope, breakers, guard, _, _, _, _, h⟩ <;>
        rw [h] <;> rfl
  | responseMapping =>
      rcases mapResponse_cases g x with ⟨e, h⟩ | ⟨r, _, h⟩ <;> rw [pass, h] <;> rfl
  | cacheStore =>
      rcases store_cases s g x with
        ⟨_, h⟩ | ⟨r, _, h⟩ | ⟨r, p, key, response, _, _, _, _, _, h⟩ <;>
        rw [pass, h] <;> rfl
  | release => exact g.setup_giveBack x.lease

theorem setup_endCall
    (now : Instant)
    (c : BackendCall)
    (a : Except GatewayError Response) :
    (endCall now g x c a).gateway.setup = g.setup := by
  cases a <;> rfl

end Stage

namespace Run

theorem setup_after (now : Instant) (rest : List Stage) (p : Passage) :
    (after now rest p).1.setup = p.gateway.setup := by
  rcases after_cases now rest p with ⟨_, h⟩ | ⟨c, _, h⟩ | ⟨_, h⟩ | ⟨e, _, h⟩ <;> rw [h]
  · exact p.gateway.setup_giveBack p.exchange.lease
  · exact p.gateway.setup_giveBack p.exchange.lease

/-- No event of a run changes what the gateway is set up with. -/
theorem setup_meet (g : Gateway) (r : Run) (e : Event) :
    (r.meet g e).1.setup = g.setup := by
  obtain ⟨x, phase⟩ := r
  cases e with
  | pass s =>
      cases phase with
      | passing rest =>
          cases rest with
          | nil => exact g.setup_giveBack x.lease
          | cons stage rest =>
              exact (setup_after s.now rest (stage.pass s g x)).trans (stage.setup_pass s g x)
      | _ => rfl
  | answer now a =>
      cases phase with
      | calling c rest => exact (setup_after now rest _).trans (Stage.setup_endCall g x now c a)
      | _ => rfl
  | expire now =>
      cases phase with
      | calling c rest => exact (setup_after now rest _).trans (Stage.setup_endCall _ x now c _)
      | _ => rfl

theorem setup_beginLease?
    {now : Instant}
    {g g' : Gateway}
    {r : Run}
    {p : PendingLease}
    (h : r.beginLease? now g = some (g', p)) :
    g'.setup = g.setup := by
  unfold beginLease? at h
  split at h
  · obtain ⟨x, _, h⟩ := Option.bind_eq_some_iff.1 h
    exact g.setup_beginLease? h
  · cases h

theorem setup_endLease (s : Surroundings) (g : Gateway) (r : Run) (p : PendingLease) :
    (r.endLease s g p).1.setup = g.setup := by
  unfold endLease
  split
  · exact (setup_after s.now _ _).trans (Stage.setup_endLease s g _ p)
  · rfl

theorem setup_abandon (now : Instant) (g : Gateway) (r : Run) :
    (r.abandon now g).setup = g.setup := by
  unfold abandon
  split
  · exact Gateway.setup_giveBack _ _
  · exact g.setup_giveBack _

end Run
end ApiGateway
