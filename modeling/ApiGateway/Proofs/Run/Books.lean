import ApiGateway.Proofs.Run.Dealings

/-!
# Counters and stored answers

What requests share beside the configuration and the backends are the counters of the rate limiter
and the stored answers. Of all that a run does, two stages write into these books, each into one of
them: the one that counts the request, and the one that stores its answer.

Main statement: `Stage.sameBooks_pass`.
-/

namespace ApiGateway

/-- The counters and the stored answers are as they were. -/
structure Gateway.SameBooks (g g' : Gateway) : Prop where
  limiter : g'.limiter = g.limiter
  cache : g'.cache = g.cache

namespace Gateway.SameBooks

theorem refl (g : Gateway) : g.SameBooks g :=
  ⟨rfl, rfl⟩

theorem trans
    {g g' g'' : Gateway}
    (h : g.SameBooks g')
    (h' : g'.SameBooks g'') :
    g.SameBooks g'' :=
  ⟨h'.limiter.trans h.limiter, h'.cache.trans h.cache⟩

variable (s : Surroundings)
variable (g : Gateway)

theorem giveBack (l : Option Lease) : g.SameBooks (g.giveBack l) := by
  cases l <;> exact ⟨rfl, rfl⟩

theorem countDiscovered (i : Nat) (now : Instant) : g.SameBooks (g.countDiscovered i now) := by
  unfold Gateway.countDiscovered
  split <;> exact ⟨rfl, rfl⟩

theorem takeLease (route : Route) : g.SameBooks (g.takeLease s route).1 := by
  unfold Gateway.takeLease
  split
  · exact .refl g
  · rename_i balancers i _
    have hcount := countDiscovered
      { g with balancers := (balancers.lease i s.registry s.now).1 } i s.now
    exact ⟨hcount.limiter, hcount.cache⟩

theorem endLease (p : PendingLease) : g.SameBooks (g.endLease s p).1 := by
  have hcount := countDiscovered
    { g with balancers := (g.balancers.endLease p s.registry s.now).1 } p.balancer s.now
  exact ⟨hcount.limiter, hcount.cache⟩

theorem beginLease?
    {now : Instant}
    {route : Route}
    {g' : Gateway}
    {p : PendingLease}
    (h : g.beginLease? now route = some (g', p)) :
    g.SameBooks g' := by
  unfold Gateway.beginLease? at h
  split at h
  · cases h
  · obtain ⟨p', _, heq⟩ := Option.map_eq_some_iff.1 h
    cases heq
    exact ⟨rfl, rfl⟩

theorem prepare (config : Config.Gateway) : g.SameBooks (g.prepare config).1 := by
  unfold Gateway.prepare
  split
  · exact .refl g
  · dsimp only
    split <;> exact ⟨rfl, rfl⟩

/-- A new configuration leaves the books as they are. -/
theorem reload (config : Config.Gateway) : g.SameBooks (g.reload config).1 := by
  have hprepare := prepare g config
  unfold Gateway.reload
  cases h : g.prepare config with
  | mk g' result =>
      rw [h] at hprepare
      cases result with
      | error f => exact hprepare
      | ok p => exact hprepare.trans ⟨rfl, rfl⟩

end Gateway.SameBooks

namespace Stage

variable (s : Surroundings)
variable (g : Gateway)
variable (x : Exchange)

theorem sameBooks_useLease
    (r : Route)
    (taken : Gateway × Except GatewayError Lease) :
    taken.1.SameBooks (useLease x r taken).gateway := by
  obtain ⟨g', result⟩ := taken
  cases result with
  | error e => exact .refl g'
  | ok l =>
      show g'.SameBooks (address (g'.countLease r.key l.service.endpoint) x r l).gateway
      have hcount : g'.SameBooks (g'.countLease r.key l.service.endpoint) := ⟨rfl, rfl⟩
      rcases address_cases (g'.countLease r.key l.service.endpoint) x r l with
        ⟨e, h⟩ | ⟨q₀, q, _, _, h⟩ <;>
        rw [h]
      · exact hcount.trans (.giveBack _ (some l))
      · exact hcount.trans (.giveBack _ x.lease)

theorem sameBooks_takeLease : g.SameBooks (takeLease s g x).gateway := by
  unfold takeLease
  rcases onRoute_cases g x _ with ⟨_, h⟩ | ⟨r, _, h⟩ <;> rw [h]
  · exact .refl g
  · exact .trans (.takeLease s g r.route) (sameBooks_useLease x r.route _)

theorem sameBooks_endLease (p : PendingLease) : g.SameBooks (endLease s g x p).gateway := by
  unfold endLease
  rcases onRoute_cases g x _ with ⟨_, h⟩ | ⟨r, _, h⟩ <;> rw [h]
  · exact .refl g
  · exact .trans (.endLease s g p) (sameBooks_useLease x r.route _)

/-- All stages but two leave the books as they are. -/
theorem sameBooks_pass
    {stage : Stage}
    (hstage : stage ∉ [rateLimit, cacheStore]) :
    g.SameBooks (stage.pass s g x).gateway := by
  have hentry : ∀ {t : Stage}, t ∈ entry → t ≠ .rateLimit → g.SameBooks (t.pass s g x).gateway := by
    intro t ht hne
    have hframe := entryFrame_pass s g x ht
    exact ⟨hframe.limiter hne, hframe.untouched.cache⟩
  cases stage with
  | routeResolution => exact hentry (by decide) nofun
  | authentication => exact hentry (by decide) nofun
  | authorisation => exact hentry (by decide) nofun
  | cacheLookup => exact hentry (by decide) nofun
  | rateLimit | cacheStore => exact absurd (by decide) hstage
  | requestConstruction =>
      rcases construct_cases s g x with ⟨q, _, h⟩ | ⟨e, _, h⟩ <;> rw [h] <;> exact ⟨rfl, rfl⟩
  | lease => exact sameBooks_takeLease s g x
  | backendCall =>
      rcases beginCall_cases s g x with
        ⟨e, h⟩ | ⟨r, l, q, breakers, metrics, e, _, _, _, h⟩ |
          ⟨r, l, q, scope, breakers, guard, _, _, _, _, h⟩ <;>
        rw [pass, h] <;>
        exact ⟨rfl, rfl⟩
  | responseMapping =>
      rcases mapResponse_cases g x with ⟨e, h⟩ | ⟨r, _, h⟩ <;> rw [pass, h] <;> exact ⟨rfl, rfl⟩
  | release => exact .giveBack g x.lease

theorem sameBooks_endCall
    (now : Instant)
    (c : BackendCall)
    (a : Except GatewayError Response) :
    g.SameBooks (endCall now g x c a).gateway := by
  cases a <;> exact ⟨rfl, rfl⟩

end Stage

namespace Run

theorem sameBooks_after (now : Instant) (rest : List Stage) (p : Passage) :
    p.gateway.SameBooks (after now rest p).1 := by
  have hclose : ∀ x : Exchange, p.gateway.SameBooks (close now p.gateway x).1 :=
    fun x => .trans (.giveBack p.gateway x.lease) ⟨rfl, rfl⟩
  rcases after_cases now rest p with ⟨_, h⟩ | ⟨c, _, h⟩ | ⟨_, h⟩ | ⟨e, _, h⟩ <;> rw [h]
  · exact .refl _
  · exact .refl _
  · exact hclose _
  · exact hclose _

theorem sameBooks_beginLease?
    {now : Instant}
    {g g' : Gateway}
    {r : Run}
    {p : PendingLease}
    (h : r.beginLease? now g = some (g', p)) :
    g.SameBooks g' := by
  unfold beginLease? at h
  split at h
  · obtain ⟨x, _, h⟩ := Option.bind_eq_some_iff.1 h
    exact .beginLease? g h
  · cases h

theorem sameBooks_endLease (s : Surroundings) (g : Gateway) (r : Run) (p : PendingLease) :
    g.SameBooks (r.endLease s g p).1 := by
  unfold endLease
  split
  · exact .trans (Stage.sameBooks_endLease s g _ p) (sameBooks_after s.now _ _)
  · exact .refl g

theorem sameBooks_abandon (now : Instant) (g : Gateway) (r : Run) :
    g.SameBooks (r.abandon now g) := by
  unfold abandon
  split
  · rename_i c rest _
    have hback := Gateway.SameBooks.giveBack
      { g with breakers := (Qos.leave g.breakers c.guard false now).1 } r.exchange.lease
    exact ⟨hback.limiter, hback.cache⟩
  · exact .giveBack g r.exchange.lease

/-- A run that meets an event leaves the books as they are, unless it passes one of two stages. -/
theorem sameBooks_meet
    (g : Gateway)
    (r : Run)
    (e : Event) :
    g.SameBooks (r.meet g e).1 ∨
    ∃ s x stage rest,
      e = .pass s ∧
      r = ⟨x, .passing (stage :: rest)⟩ ∧
      stage ∈ [Stage.rateLimit, .cacheStore] ∧
      (stage.pass s g x).gateway.SameBooks (r.meet g e).1 := by
  obtain ⟨x, phase⟩ := r
  cases e with
  | pass s =>
      cases phase with
      | passing rest =>
          cases rest with
          | nil => exact .inl (.trans (.giveBack g x.lease) ⟨rfl, rfl⟩)
          | cons stage rest =>
              have hafter := sameBooks_after s.now rest (stage.pass s g x)
              by_cases hstage : stage ∈ [Stage.rateLimit, .cacheStore]
              · exact .inr ⟨s, x, stage, rest, rfl, rfl, hstage, hafter⟩
              · exact .inl (.trans (Stage.sameBooks_pass s g x hstage) hafter)
      | calling c rest => exact .inl (.refl g)
      | ended response => exact .inl (.refl g)
  | answer now a =>
      cases phase with
      | calling c rest =>
          exact .inl (.trans (Stage.sameBooks_endCall g x now c a) (sameBooks_after now rest _))
      | _ => exact .inl (.refl g)
  | expire now =>
      cases phase with
      | calling c rest =>
          have hcount : g.SameBooks (g.countFor "gateway_downstream_timeouts_total" x.routeKey) :=
            ⟨rfl, rfl⟩
          have htold := hcount.trans (Stage.sameBooks_endCall _ x now c (.error .downstreamTimeout))
          exact .inl (htold.trans (sameBooks_after now rest _))
      | _ => exact .inl (.refl g)

end Run
end ApiGateway
