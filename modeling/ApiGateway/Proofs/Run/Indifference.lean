import ApiGateway.Proofs.Run.Guarded

/-!
# Runs and the breakers of others

What becomes of a run at an event, and of everything else that requests share, does not depend on
any breaker but the one that is used there: where other breakers are in another state, everything
else comes out the same.
-/

namespace ApiGateway

def Gateway.withBreakers (g : Gateway) (r : BreakerRegistry) : Gateway :=
  { g with breakers := r }

/-- What a stage leaves behind, with other breakers. -/
def Passage.withBreakers (p : Passage) (r : BreakerRegistry) : Passage :=
  { p with gateway := p.gateway.withBreakers r }

/-- Registries that agree on the breaker that is used, and on which breakers are in charge. -/
structure AgreeOn (use : Option BreakerUse) (r r' : BreakerRegistry) : Prop where
  scopes : r'.scopes = r.scopes
  size : r'.breakers.size = r.breakers.size
  used : ∀ u, use = some u → r'.breakers[u.breaker]? = r.breakers[u.breaker]?

namespace AgreeOn

variable {r r' : BreakerRegistry}

theorem of_none (hscopes : r'.scopes = r.scopes) (hsize : r'.breakers.size = r.breakers.size) :
    AgreeOn none r r' :=
  ⟨hscopes, hsize, fun _ h => nomatch h⟩

section Asked

variable {c : GuardedCall}

/-- The breaker that is asked is the same, and answers the same. -/
theorem getOrCreate
    (h : AgreeOn (some ⟨c, (r.getOrCreate c.scope c.policy.breaker).2, true⟩) r r') :
    (r'.getOrCreate c.scope c.policy.breaker).2 = (r.getOrCreate c.scope c.policy.breaker).2 ∧
    AgreeOn (some ⟨c, (r.getOrCreate c.scope c.policy.breaker).2, true⟩)
      (r.getOrCreate c.scope c.policy.breaker).1 (r'.getOrCreate c.scope c.policy.breaker).1 := by
  have hscope : r'.scopes[c.scope]? = r.scopes[c.scope]? := by rw [h.scopes]
  unfold BreakerRegistry.getOrCreate at h ⊢
  rw [hscope]
  cases hi : r.scopes[c.scope]? with
  | some i =>
      rw [hi] at h
      exact ⟨rfl, h⟩
  | none =>
      refine ⟨h.size, ?_, ?_, ?_⟩
      · simp only [h.scopes, h.size]
      · simp only [Array.size_push, h.size]
      · intro u hu
        cases hu
        simp only [Array.getElem?_push, h.size, if_pos]

theorem check
    {i : Nat}
    (h : AgreeOn (some ⟨c, i, true⟩) r r')
    (now : Instant) :
    (r'.check i now).2 = (r.check i now).2 ∧
    AgreeOn (some ⟨c, i, true⟩) (r.check i now).1 (r'.check i now).1 := by
  have hi := h.used _ rfl
  refine ⟨?_, ?_, ?_, ?_⟩
  · simp only at hi
    unfold BreakerRegistry.check
    rw [hi]
    cases r.breakers[i]? <;> rfl
  · rw [BreakerRegistry.scopes_check, BreakerRegistry.scopes_check, h.scopes]
  · rw [BreakerRegistry.size_check, BreakerRegistry.size_check, h.size]
  · intro u hu
    cases hu
    rw [BreakerRegistry.getElem?_check, BreakerRegistry.getElem?_check, hi]

/-- The call comes in, or is refused, in the same way. -/
theorem enter
    (h : AgreeOn (some ⟨c, (r.getOrCreate c.scope c.policy.breaker).2, true⟩) r r')
    (now : Instant) :
    (Qos.enter r' (some c.policy) c.scope now).2 = (Qos.enter r (some c.policy) c.scope now).2 ∧
    AgreeOn (some ⟨c, (r.getOrCreate c.scope c.policy.breaker).2, true⟩)
      (Qos.enter r (some c.policy) c.scope now).1 (Qos.enter r' (some c.policy) c.scope now).1 := by
  obtain ⟨hindex, hnext⟩ := h.getOrCreate
  obtain ⟨hanswer, hafter⟩ := hnext.check now
  rw [Qos.enter_some, Qos.enter_some]
  constructor
  · simp only [hindex, hanswer]
  · simp only [hindex]
    exact hafter

end Asked

theorem leave
    {c : GuardedCall}
    {guard : Qos.Guard}
    (h : AgreeOn (some ⟨c, guard.breaker, false⟩) r r')
    (succeeded : Bool)
    (now : Instant) :
    (Qos.leave r' (some guard) succeeded now).2 = (Qos.leave r (some guard) succeeded now).2 ∧
    AgreeOn (some ⟨c, guard.breaker, false⟩)
      (Qos.leave r (some guard) succeeded now).1 (Qos.leave r' (some guard) succeeded now).1 := by
  have hi := h.used _ rfl
  refine ⟨?_, ?_, ?_, ?_⟩
  · simp only at hi
    cases succeeded with
    | true => rfl
    | false =>
        simp only [Qos.leave, BreakerRegistry.recordFailure, hi]
        cases r.breakers[guard.breaker]? <;> rfl
  · rw [Qos.scopes_leave, Qos.scopes_leave, h.scopes]
  · rw [Qos.size_leave, Qos.size_leave, h.size]
  · intro u hu
    cases hu
    rw [Qos.getElem?_leave, Qos.getElem?_leave, hi]

end AgreeOn

section Gateways

variable (s : Surroundings)
variable (g : Gateway)
variable (r : BreakerRegistry)

theorem Gateway.giveBack_withBreakers (l : Option Lease) :
    (g.withBreakers r).giveBack l = (g.giveBack l).withBreakers r := by
  cases l <;> rfl

theorem Gateway.countDiscovered_withBreakers (i : Nat) (now : Instant) :
    (g.withBreakers r).countDiscovered i now = (g.countDiscovered i now).withBreakers r := by
  unfold countDiscovered withBreakers
  cases (g.balancers.balancers[i]?).bind (·.source.fetchedAt? now) <;> rfl

theorem Gateway.takeLease_withBreakers (route : Route) :
    (g.withBreakers r).takeLease s route =
      ((g.takeLease s route).1.withBreakers r, (g.takeLease s route).2) := by
  unfold takeLease
  rw [show (g.withBreakers r).balancers = g.balancers from rfl]
  cases g.balancers.get route with
  | error e => rfl
  | ok found =>
      exact Prod.ext (countDiscovered_withBreakers
        { g with balancers := (found.1.lease found.2 s.registry s.now).1 } r found.2 s.now) rfl

theorem Gateway.endLease_withBreakers (p : PendingLease) :
    (g.withBreakers r).endLease s p =
      ((g.endLease s p).1.withBreakers r, (g.endLease s p).2) :=
  Prod.ext (countDiscovered_withBreakers
    { g with balancers := (g.balancers.endLease p s.registry s.now).1 } r p.balancer s.now) rfl

end Gateways

namespace Stage

section Stages

variable (s : Surroundings)
variable (g : Gateway)
variable (x : Exchange)
variable (r : BreakerRegistry)

theorem onRoute_withBreakers
    {stage stage' : ResolvedRoute → Passage}
    (h : ∀ found, stage' found = (stage found).withBreakers r) :
    Passage.onRoute (g.withBreakers r) x stage' = (Passage.onRoute g x stage).withBreakers r := by
  unfold Passage.onRoute
  cases x.route with
  | error e => rfl
  | ok found => exact h found

theorem resolveRoute_withBreakers :
    resolveRoute (g.withBreakers r) x = (resolveRoute g x).withBreakers r := by
  unfold resolveRoute Gateway.withBreakers
  dsimp only
  cases g.table.resolve x.request.method x.request.uri.path <;> rfl

theorem limitRate_withBreakers :
    limitRate s (g.withBreakers r) x = (limitRate s g x).withBreakers r := by
  refine onRoute_withBreakers g x r fun found => ?_
  cases found.route.rateLimit with
  | none => rfl
  | some p =>
      dsimp only [Gateway.withBreakers]
      cases p.isWhitelisted (p.clientId x.request.headers) with
      | true => rfl
      | false =>
          cases (g.limiter.check p found.route.key (p.clientId x.request.headers) s.now).2.allowed
            <;> rfl

theorem authenticate_withBreakers :
    authenticate s (g.withBreakers r) x = (authenticate s g x).withBreakers r := by
  refine onRoute_withBreakers g x r fun found => ?_
  cases found.route.authentication with
  | none => rfl
  | some p =>
      dsimp only
      cases s.identify p (x.contact (.identity p)).request.headers <;> rfl

theorem authorise_withBreakers :
    authorise (g.withBreakers r) x = (authorise g x).withBreakers r := by
  refine onRoute_withBreakers g x r fun found => ?_
  cases found.route.authentication with
  | none => rfl
  | some p =>
      cases x.claims with
      | none => rfl
      | some claims =>
          dsimp only
          cases claims.authorise found.route.claimsRequirement p.allowedScopes <;> rfl

theorem lookUp_withBreakers :
    lookUp s (g.withBreakers r) x = (lookUp s g x).withBreakers r := by
  refine onRoute_withBreakers g x r fun found => ?_
  cases found.route.cache with
  | none => rfl
  | some p =>
      dsimp only [Gateway.withBreakers]
      cases Cache.isCacheable x.request.method with
      | false => rfl
      | true =>
          cases cacheKeyOf x p with
          | error e => rfl
          | ok key =>
              dsimp only
              cases g.cache.get? key p.region s.now <;> rfl

theorem store_withBreakers :
    store s (g.withBreakers r) x = (store s g x).withBreakers r := by
  refine onRoute_withBreakers g x r fun found => ?_
  cases found.route.cache with
  | none => rfl
  | some p =>
      cases x.cacheKey with
      | none => rfl
      | some key =>
          cases x.response with
          | none => rfl
          | some response =>
              dsimp only
              cases Status.isSuccess response.status <;> rfl

theorem address_withBreakers (route : Route) (l : Lease) :
    address (g.withBreakers r) x route l = (address g x route l).withBreakers r := by
  unfold address
  cases x.outbound with
  | none => exact congrArg (Passage.refuse · x _) (g.giveBack_withBreakers r (some l))
  | some q =>
      dsimp only
      cases q.sendTo route.downstreamScheme l.service.endpoint with
      | error e => exact congrArg (Passage.refuse · x e) (g.giveBack_withBreakers r (some l))
      | ok q => exact congrArg (Passage.proceed · _) (g.giveBack_withBreakers r x.lease)

theorem useLease_withBreakers
    (route : Route)
    (taken : Gateway × Except GatewayError Lease) :
    useLease x route (taken.1.withBreakers r, taken.2) =
      (useLease x route taken).withBreakers r := by
  obtain ⟨g', result⟩ := taken
  cases result with
  | error e => rfl
  | ok l => exact address_withBreakers (g'.countLease route.key l.service.endpoint) x r route l

theorem takeLease_withBreakers :
    takeLease s (g.withBreakers r) x = (takeLease s g x).withBreakers r := by
  refine onRoute_withBreakers g x r fun found => ?_
  rw [g.takeLease_withBreakers s r found.route]
  exact useLease_withBreakers x r found.route (g.takeLease s found.route)

theorem endLease_withBreakers (p : PendingLease) :
    endLease s (g.withBreakers r) x p = (endLease s g x p).withBreakers r := by
  refine onRoute_withBreakers g x r fun found => ?_
  rw [g.endLease_withBreakers s r p]
  exact useLease_withBreakers x r found.route (g.endLease s p)

theorem mapResponse_withBreakers :
    mapResponse (g.withBreakers r) x = (mapResponse g x).withBreakers r := by
  unfold mapResponse
  cases x.backendResponse <;> rfl

/-- Only the stage that calls the backend looks at breakers. -/
theorem pass_withBreakers
    {stage : Stage}
    (hstage : stage ≠ .backendCall) :
    stage.pass s (g.withBreakers r) x = (stage.pass s g x).withBreakers r := by
  cases stage with
  | routeResolution => exact resolveRoute_withBreakers g x r
  | rateLimit => exact limitRate_withBreakers s g x r
  | authentication => exact authenticate_withBreakers s g x r
  | authorisation => exact authorise_withBreakers g x r
  | cacheLookup => exact lookUp_withBreakers s g x r
  | requestConstruction =>
      unfold pass
      cases x.buildOutbound <;> rfl
  | lease => exact takeLease_withBreakers s g x r
  | backendCall => exact absurd rfl hstage
  | responseMapping => exact mapResponse_withBreakers g x r
  | cacheStore => exact store_withBreakers s g x r
  | release => exact congrArg (Passage.proceed · _) (g.giveBack_withBreakers r x.lease)

theorem called_withBreakers
    (q : Request)
    (scope : String)
    {entered entered' : BreakerRegistry × Except GatewayError (Option Qos.Guard)}
    (h : entered'.2 = entered.2) :
    called (g.withBreakers r) x q scope entered' =
      (called g x q scope entered).withBreakers entered'.1 := by
  obtain ⟨_, result⟩ := entered
  obtain ⟨_, result'⟩ := entered'
  cases h
  cases result <;> rfl

/-- The stage that calls the backend looks at one breaker. -/
theorem beginCall_withBreakers (h : AgreeOn (x.asks? g) g.breakers r) :
    ∃ r',
      beginCall s (g.withBreakers r) x = (beginCall s g x).withBreakers r' ∧
      AgreeOn (x.asks? g) (beginCall s g x).gateway.breakers r' := by
  rcases beginCall_ready s x with ⟨e, hrefuse⟩ | ⟨found, l, q, hx, hl, hq⟩
  · rw [(hrefuse _).2, (hrefuse _).2]
    exact ⟨r, rfl, h⟩
  have hguarded := guarded?_eq hx hl
  rw [beginCall_eq s g hx hl hq, beginCall_eq s (g.withBreakers r) hx hl hq]
  cases hp : found.route.qos with
  | none => exact ⟨r, rfl, h⟩
  | some p =>
      rw [hp] at hguarded
      rw [asks?_eq g hguarded hq] at h ⊢
      obtain ⟨hanswer, hafter⟩ := h.enter s.now
      refine ⟨_, called_withBreakers g x r q _ hanswer, ?_⟩
      rw [breakers_called]
      exact hafter

end Stages

section Settling

variable (g : Gateway)
variable (x : Exchange)
variable (call : BackendCall)
variable (answer : Except GatewayError Response)

/-- What comes of a call that is over when its breaker was told. -/
def settled (left : BreakerRegistry × Bool) : Passage :=
  let metrics :=
    if left.2 then g.metrics.count "gateway_circuit_breaker_opened_total" [("scope", call.scope)]
    else g.metrics
  match answer with
  | .ok r => .proceed { g with breakers := left.1, metrics } { x with backendResponse := some r }
  | .error e => .refuse { g with breakers := left.1, metrics } x e

theorem endCall_eq (now : Instant) :
    endCall now g x call answer =
      settled g x call answer (Qos.leave g.breakers call.guard answer.isOk now) :=
  rfl

theorem settled_withBreakers
    (b : BreakerRegistry)
    {left left' : BreakerRegistry × Bool}
    (h : left'.2 = left.2) :
    settled (g.withBreakers b) x call answer left' =
      (settled g x call answer left).withBreakers left'.1 := by
  unfold settled
  rw [h]
  cases answer <;> rfl

theorem breakers_settled (left : BreakerRegistry × Bool) :
    (settled g x call answer left).gateway.breakers = left.1 := by
  cases answer <;> rfl

end Settling

end Stage

namespace Run

def withBreakers (next : Gateway × Run) (b : BreakerRegistry) : Gateway × Run :=
  (next.1.withBreakers b, next.2)

/-- What comes of a run and of everything else is the same but for breakers that are not used. -/
def Indifferent (use : Option BreakerUse) (next : Gateway × Run) (next' : Gateway × Run) : Prop :=
  ∃ b, next' = withBreakers next b ∧ AgreeOn use next.1.breakers b

section Steps

variable (g : Gateway)
variable (r : Run)
variable (b : BreakerRegistry)

theorem close_withBreakers (now : Instant) (x : Exchange) :
    close now (g.withBreakers b) x = withBreakers (close now g x) b := by
  unfold close withBreakers
  dsimp only
  rw [g.giveBack_withBreakers b x.lease]
  rfl

theorem breakers_close (now : Instant) (x : Exchange) :
    (close now g x).1.breakers = g.breakers :=
  (Gateway.SameDesk.giveBack g x.lease).breakers

theorem after_withBreakers (now : Instant) (rest : List Stage) (p : Passage) :
    after now rest (p.withBreakers b) = withBreakers (after now rest p) b := by
  unfold after Passage.withBreakers
  dsimp only
  cases p.verdict with
  | proceed => rfl
  | respond => exact close_withBreakers p.gateway b now p.exchange
  | refuse e => exact close_withBreakers p.gateway b now (p.exchange.refuse e)
  | await c => rfl

theorem breakers_after (now : Instant) (rest : List Stage) (p : Passage) :
    (after now rest p).1.breakers = p.gateway.breakers := by
  rcases after_cases now rest p with ⟨_, h⟩ | ⟨c, _, h⟩ | ⟨_, h⟩ | ⟨e, _, h⟩ <;> rw [h]
  · exact breakers_close p.gateway now p.exchange
  · exact breakers_close p.gateway now (p.exchange.refuse e)

variable {g b}

/-- What comes after a stage uses no breaker. -/
theorem Indifferent.after
    {use : Option BreakerUse}
    {p p' : Passage}
    (h : ∃ b, p' = p.withBreakers b ∧ AgreeOn use p.gateway.breakers b)
    (now : Instant)
    (rest : List Stage) :
    Indifferent use (Run.after now rest p) (Run.after now rest p') := by
  obtain ⟨b, rfl, hagree⟩ := h
  refine ⟨b, after_withBreakers b now rest p, ?_⟩
  rw [breakers_after]
  exact hagree

theorem Indifferent.idle
    {use : Option BreakerUse}
    (h : AgreeOn use g.breakers b) :
    Indifferent use (g, r) (g.withBreakers b, r) :=
  ⟨b, rfl, h⟩

theorem indifferent_pass
    {x : Exchange}
    {stage : Stage}
    {rest : List Stage}
    (h : AgreeOn (asks? g ⟨x, .passing (stage :: rest)⟩) g.breakers b)
    (s : Surroundings) :
    Indifferent (asks? g ⟨x, .passing (stage :: rest)⟩)
      (after s.now rest (stage.pass s g x))
      (after s.now rest (stage.pass s (g.withBreakers b) x)) := by
  refine .after ?_ s.now rest
  by_cases hstage : stage = .backendCall
  · subst hstage
    exact Stage.beginCall_withBreakers s g x b h
  · refine ⟨b, Stage.pass_withBreakers s g x b hstage, ?_⟩
    rw [(Stage.callFrame_pass s g x stage).breakers hstage]
    exact h

theorem indifferent_endLease
    (h : AgreeOn none g.breakers b)
    (s : Surroundings)
    (p : PendingLease) :
    Indifferent none (r.endLease s g p) (r.endLease s (g.withBreakers b) p) := by
  unfold endLease
  split
  · refine .after ⟨b, Stage.endLease_withBreakers s g r.exchange b p, ?_⟩ s.now _
    rw [(Stage.callFrame_endLease s g r.exchange p).breakers (by decide)]
    exact h
  · exact .idle r h

/-- The breaker of a call that is over takes it in the same way. -/
theorem agreeOn_leave
    {x : Exchange}
    {call : BackendCall}
    {rest : List Stage}
    (hr : Vouched ⟨x, .calling call rest⟩)
    (h : AgreeOn (tells? ⟨x, .calling call rest⟩) g.breakers b)
    (succeeded : Bool)
    (now : Instant) :
    (Qos.leave b call.guard succeeded now).2 =
      (Qos.leave g.breakers call.guard succeeded now).2 ∧
    AgreeOn (tells? ⟨x, .calling call rest⟩)
      (Qos.leave g.breakers call.guard succeeded now).1
      (Qos.leave b call.guard succeeded now).1 := by
  cases hguard : call.guard with
  | none => exact ⟨rfl, h⟩
  | some guard =>
      obtain ⟨c, htells⟩ := tells?_of_guard hr hguard
      rw [htells] at h ⊢
      exact h.leave succeeded now

theorem indifferent_endCall
    {x : Exchange}
    {call : BackendCall}
    {rest : List Stage}
    (hr : Vouched ⟨x, .calling call rest⟩)
    (h : AgreeOn (tells? ⟨x, .calling call rest⟩) g.breakers b)
    (now : Instant)
    (answer : Except GatewayError Response) :
    Indifferent (tells? ⟨x, .calling call rest⟩)
      (after now rest (Stage.endCall now g x call answer))
      (after now rest (Stage.endCall now (g.withBreakers b) x call answer)) := by
  obtain ⟨hopened, hafter⟩ := agreeOn_leave hr h answer.isOk now
  rw [Stage.endCall_eq, Stage.endCall_eq]
  refine .after ⟨_, Stage.settled_withBreakers g x call answer b hopened, ?_⟩ now rest
  rw [Stage.breakers_settled]
  exact hafter

/-- A run does not look at any breaker but the one that it uses. -/
theorem indifferent_meet
    (hr : r.Vouched)
    (e : Event)
    (h : AgreeOn (r.use? g e) g.breakers b) :
    Indifferent (r.use? g e) (r.meet g e) (r.meet (g.withBreakers b) e) := by
  obtain ⟨x, phase⟩ := r
  cases e with
  | pass s =>
      cases phase with
      | passing stages =>
          cases stages with
          | nil =>
              refine ⟨b, close_withBreakers g b s.now x, ?_⟩
              have hsame : (meet g ⟨x, .passing []⟩ (.pass s)).1.breakers = g.breakers :=
                breakers_close g s.now x
              rw [hsame]
              exact h
          | cons stage rest => exact indifferent_pass h s
      | calling call rest => exact .idle _ h
      | ended response => exact .idle _ h
  | answer now a =>
      cases phase with
      | passing stages => exact .idle _ h
      | calling call rest => exact indifferent_endCall hr h now a
      | ended response => exact .idle _ h
  | expire now =>
      cases phase with
      | passing stages => exact .idle _ h
      | calling call rest =>
          -- the call is counted as late before it ends
          exact indifferent_endCall
            (g := g.countFor "gateway_downstream_timeouts_total" x.routeKey) hr h now
            (.error .downstreamTimeout)
      | ended response => exact .idle _ h

/-- Nor does a run that is given up. -/
theorem abandon_withBreakers
    (hr : r.Vouched)
    (h : AgreeOn r.tells? g.breakers b)
    (now : Instant) :
    ∃ b',
      r.abandon now (g.withBreakers b) = (r.abandon now g).withBreakers b' ∧
      AgreeOn r.tells? (r.abandon now g).breakers b' := by
  obtain ⟨x, phase⟩ := r
  have hback : ∀ (g' : Gateway) {b' : BreakerRegistry} {use : Option BreakerUse},
      AgreeOn use g'.breakers b' →
      ∃ b'', (g'.withBreakers b').giveBack x.lease = (g'.giveBack x.lease).withBreakers b'' ∧
        AgreeOn use (g'.giveBack x.lease).breakers b'' := by
    intro g' b' use hagree
    refine ⟨b', g'.giveBack_withBreakers b' x.lease, ?_⟩
    rw [(Gateway.SameDesk.giveBack g' x.lease).breakers]
    exact hagree
  cases phase with
  | passing stages => exact hback g h
  | calling call rest =>
      exact hback { g with breakers := (Qos.leave g.breakers call.guard false now).1 }
        (agreeOn_leave hr h false now).2
  | ended response => exact hback g h

end Steps

end Run
end ApiGateway
