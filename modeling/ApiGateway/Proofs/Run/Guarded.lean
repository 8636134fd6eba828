import ApiGateway.Proofs.Route.Compilation
import ApiGateway.Proofs.Run.BreakerUse
import ApiGateway.Proofs.Run.Frames

/-!
# Guarded calls of runs

Each event of a run uses the breaker that `Run.use?` says, and no other one. Stages but the one that
calls the backend leave all breakers as they are.
-/

namespace ApiGateway

/-- What dealings with load balancers leave as it was. -/
structure Gateway.SameDesk (g g' : Gateway) : Prop where
  table : g'.table = g.table
  breakers : g'.breakers = g.breakers

namespace Gateway.SameDesk

variable (s : Surroundings)
variable (g : Gateway)

theorem giveBack (l : Option Lease) : g.SameDesk (g.giveBack l) := by
  cases l <;> exact ⟨rfl, rfl⟩

theorem countDiscovered (i : Nat) (now : Instant) : g.SameDesk (g.countDiscovered i now) := by
  unfold Gateway.countDiscovered
  split <;> exact ⟨rfl, rfl⟩

theorem takeLease (r : Route) : g.SameDesk (g.takeLease s r).1 := by
  unfold Gateway.takeLease
  split
  · exact ⟨rfl, rfl⟩
  · rename_i balancers i _
    have hcount := countDiscovered
      { g with balancers := (balancers.lease i s.registry s.now).1 } i s.now
    exact ⟨hcount.table, hcount.breakers⟩

theorem endLease (p : PendingLease) : g.SameDesk (g.endLease s p).1 := by
  have hcount := countDiscovered
    { g with balancers := (g.balancers.endLease p s.registry s.now).1 } p.balancer s.now
  exact ⟨hcount.table, hcount.breakers⟩

end Gateway.SameDesk

namespace Stage

/-- What a stage leaves as it was for calls and breakers, whatever comes of it. -/
structure CallFrame (stage : Stage) (g : Gateway) (x : Exchange) (p : Passage) : Prop where
  table : p.gateway.table = g.table
  resolved : ∀ found, p.exchange.resolved = some found →
    x.resolved = some found ∨ found.route ∈ g.table.routes
  breakers : stage ≠ .backendCall → p.gateway.breakers = g.breakers
  answers : stage ≠ .backendCall → ∀ c, p.verdict ≠ .await c

section Calls

variable (s : Surroundings)
variable (g : Gateway)
variable (x : Exchange)

theorem callFrame_of_resolved
    {stage : Stage}
    {p : Passage}
    (hgateway : g.SameDesk p.gateway)
    (hresolved : p.exchange.resolved = x.resolved)
    (hanswers : ∀ c, p.verdict ≠ .await c) :
    CallFrame stage g x p :=
  ⟨hgateway.table, fun _ h => .inl (hresolved ▸ h), fun _ => hgateway.breakers, fun _ => hanswers⟩

theorem callFrame_resolveRoute : CallFrame .routeResolution g x (resolveRoute g x) := by
  rcases resolveRoute_cases g x with ⟨e, _, h⟩ | ⟨r, hr, h⟩ <;> rw [h]
  · exact callFrame_of_resolved g x ⟨rfl, rfl⟩ rfl (fun _ hc => Verdict.noConfusion hc)
  · refine ⟨rfl, ?_, fun _ => rfl, fun _ _ hc => Verdict.noConfusion hc⟩
    intro found hfound
    cases hfound
    exact .inr (RouteTable.mem_of_resolve hr)

theorem callFrame_useLease
    {stage : Stage}
    (r : Route)
    {taken : Gateway × Except GatewayError Lease}
    (htaken : g.SameDesk taken.1) :
    CallFrame stage g x (useLease x r taken) := by
  obtain ⟨g', result⟩ := taken
  cases result with
  | error e => exact callFrame_of_resolved g x htaken rfl (fun _ hc => Verdict.noConfusion hc)
  | ok l =>
      unfold useLease
      rcases address_cases (g'.countLease r.key l.service.endpoint) x r l with
        ⟨e, h⟩ | ⟨q₀, q, _, _, h⟩
      · have hback := Gateway.SameDesk.giveBack (g'.countLease r.key l.service.endpoint) (some l)
        simp only [h]
        exact callFrame_of_resolved g x
          ⟨hback.table.trans htaken.table, hback.breakers.trans htaken.breakers⟩ rfl
          (fun _ hc => Verdict.noConfusion hc)
      · have hback := Gateway.SameDesk.giveBack (g'.countLease r.key l.service.endpoint) x.lease
        simp only [h]
        exact callFrame_of_resolved g x
          ⟨hback.table.trans htaken.table, hback.breakers.trans htaken.breakers⟩ rfl
          (fun _ hc => Verdict.noConfusion hc)

theorem callFrame_takeLease : CallFrame .lease g x (takeLease s g x) := by
  unfold takeLease
  rcases onRoute_cases g x _ with ⟨_, h⟩ | ⟨r, _, h⟩ <;> rw [h]
  · exact callFrame_of_resolved g x ⟨rfl, rfl⟩ rfl (fun _ hc => Verdict.noConfusion hc)
  · exact callFrame_useLease g x r.route (.takeLease s g r.route)

theorem callFrame_endLease (p : PendingLease) : CallFrame .lease g x (endLease s g x p) := by
  unfold endLease
  rcases onRoute_cases g x _ with ⟨_, h⟩ | ⟨r, _, h⟩ <;> rw [h]
  · exact callFrame_of_resolved g x ⟨rfl, rfl⟩ rfl (fun _ hc => Verdict.noConfusion hc)
  · exact callFrame_useLease g x r.route (.endLease s g p)

theorem callFrame_beginCall : CallFrame .backendCall g x (beginCall s g x) := by
  rcases beginCall_cases s g x with
    ⟨e, h⟩ | ⟨r, l, q, breakers, metrics, e, _, _, _, h⟩ |
      ⟨r, l, q, scope, breakers, guard, _, _, _, _, h⟩ <;>
    rw [h] <;>
    exact ⟨rfl, fun _ h => .inl h, fun h => absurd rfl h, fun h => absurd rfl h⟩

/-- Only the stage that calls the backend has to do with breakers. -/
theorem callFrame_pass (stage : Stage) : CallFrame stage g x (stage.pass s g x) := by
  have hentry : stage ∈ entry → stage ≠ .routeResolution →
      CallFrame stage g x (stage.pass s g x) := by
    intro hstage hother
    have hframe := entryFrame_pass s g x hstage
    exact callFrame_of_resolved g x ⟨hframe.untouched.table, hframe.untouched.breakers⟩
      (hframe.resolved hother) hframe.answers
  cases stage with
  | routeResolution => exact callFrame_resolveRoute g x
  | rateLimit | authentication | authorisation | cacheLookup =>
      exact hentry (by decide) (by decide)
  | requestConstruction =>
      rcases construct_cases s g x with ⟨q, _, h⟩ | ⟨e, _, h⟩ <;> rw [h] <;>
        exact callFrame_of_resolved g x ⟨rfl, rfl⟩ rfl (fun _ hc => Verdict.noConfusion hc)
  | lease => exact callFrame_takeLease s g x
  | backendCall => exact callFrame_beginCall s g x
  | responseMapping =>
      rcases mapResponse_cases g x with ⟨e, h⟩ | ⟨r, _, h⟩ <;> rw [pass, h] <;>
        exact callFrame_of_resolved g x ⟨rfl, rfl⟩ rfl (fun _ hc => Verdict.noConfusion hc)
  | cacheStore =>
      rcases store_cases s g x with ⟨_, h⟩ | ⟨r, _, h⟩ | ⟨r, p, key, response, _, _, _, _, _, h⟩ <;>
        rw [pass, h] <;>
        exact callFrame_of_resolved g x ⟨rfl, rfl⟩ rfl (fun _ hc => Verdict.noConfusion hc)
  | release =>
      exact callFrame_of_resolved g x (.giveBack g x.lease) rfl
        (fun _ hc => Verdict.noConfusion hc)

end Calls

section Calling

variable (s : Surroundings)
variable (g : Gateway)
variable (x : Exchange)

/-- What comes of a call when its breaker has answered. -/
def called (q : Request) (scope : String)
    (entered : BreakerRegistry × Except GatewayError (Option Qos.Guard)) : Passage :=
  match entered with
  | (breakers, .error e) =>
      let metrics := g.metrics.count "gateway_circuit_breaker_rejected_total" [("scope", scope)]
      .refuse { g with breakers, metrics } { x with outbound := none } e
  | (breakers, .ok guard) =>
      ⟨{ g with breakers }, ({ x with outbound := none } : Exchange).contact (.backend q),
        .await ⟨q, scope, guard⟩⟩

section Called

variable (q : Request)
variable (scope : String)
variable (entered : BreakerRegistry × Except GatewayError (Option Qos.Guard))

theorem breakers_called : (called g x q scope entered).gateway.breakers = entered.1 := by
  obtain ⟨_, result⟩ := entered
  cases result <;> rfl

theorem guarded?_called : (called g x q scope entered).exchange.guarded? = x.guarded? := by
  obtain ⟨_, result⟩ := entered
  cases result <;> rfl

variable {g x q scope entered}

theorem entered_of_called
    {call : BackendCall}
    (h : (called g x q scope entered).verdict = .await call) :
    entered.2 = .ok call.guard := by
  obtain ⟨_, result⟩ := entered
  cases result with
  | error e => cases h
  | ok guard =>
      cases h
      rfl

end Called

/-- An exchange that is not ready for its call is refused whatever the gateway is like. -/
theorem beginCall_ready :
    (∃ e, ∀ g, x.asks? g = none ∧ beginCall s g x = .refuse g x e) ∨
    ∃ found l q, x.resolved = some found ∧ x.lease = some l ∧ x.outbound = some q := by
  cases x with
  | mk request peer requestId start resolved advice claims cacheKey outbound lease =>
      cases resolved with
      | none => exact .inl ⟨_, fun _ => ⟨rfl, rfl⟩⟩
      | some found =>
          cases lease with
          | none =>
              refine .inl ⟨_, fun _ => ⟨?_, rfl⟩⟩
              simp [Exchange.asks?, Exchange.guarded?]
          | some l =>
              cases outbound with
              | none =>
                  refine .inl ⟨_, fun _ => ⟨?_, rfl⟩⟩
                  simp [Exchange.asks?]
              | some q => exact .inr ⟨found, l, q, rfl, rfl, rfl⟩

section Ready

variable {x}
variable {found : ResolvedRoute}
variable {l : Lease}
variable {q : Request}

theorem beginCall_eq
    (hx : x.resolved = some found)
    (hl : x.lease = some l)
    (hq : x.outbound = some q) :
    beginCall s g x =
      called g x q ((found.route.qos.map (·.scopeKey found.route.key l.service.endpoint)).getD "")
        (Qos.enter g.breakers found.route.qos
          ((found.route.qos.map (·.scopeKey found.route.key l.service.endpoint)).getD "") s.now) := by
  cases x
  cases hx
  cases hl
  cases hq
  rfl

theorem guarded?_eq
    (hx : x.resolved = some found)
    (hl : x.lease = some l) :
    x.guarded? = found.route.qos.map fun p => ⟨found.route, p, l.service.endpoint⟩ := by
  cases hp : found.route.qos <;> simp [Exchange.guarded?, hx, hl, hp]

theorem asks?_eq
    {c : GuardedCall}
    (hc : x.guarded? = some c)
    (hq : x.outbound = some q) :
    x.asks? g = some ⟨c, (g.breakers.getOrCreate c.scope c.policy.breaker).2, true⟩ := by
  simp [Exchange.asks?, hc, hq]

end Ready

/-- A call without a policy has nothing to do with breakers, and any other asks its own. -/
theorem beginCall_asks :
    (x.asks? g = none ∧
      (beginCall s g x).gateway.breakers = g.breakers ∧
      ∀ call, (beginCall s g x).verdict = .await call → call.guard = none) ∨
    (∃ c,
      x.asks? g = some ⟨c, (g.breakers.getOrCreate c.scope c.policy.breaker).2, true⟩ ∧
      (beginCall s g x).exchange.guarded? = some c ∧
      (beginCall s g x).gateway.breakers =
        ((g.breakers.getOrCreate c.scope c.policy.breaker).1.check
          (g.breakers.getOrCreate c.scope c.policy.breaker).2 s.now).1 ∧
      ∀ call guard, (beginCall s g x).verdict = .await call → call.guard = some guard →
        guard.breaker = (g.breakers.getOrCreate c.scope c.policy.breaker).2) := by
  rcases beginCall_ready s x with ⟨e, hrefuse⟩ | ⟨found, l, q, hx, hl, hq⟩
  · obtain ⟨hnone, hrefuse⟩ := hrefuse g
    rw [hrefuse]
    exact .inl ⟨hnone, rfl, fun _ h => nomatch h⟩
  have hguarded := guarded?_eq hx hl
  rw [beginCall_eq s g hx hl hq]
  cases hp : found.route.qos with
  | none =>
      rw [hp] at hguarded
      refine .inl ⟨by simp [Exchange.asks?, hguarded], rfl, ?_⟩
      intro call hcall
      exact (Except.ok.inj (entered_of_called hcall)).symm
  | some p =>
      rw [hp] at hguarded
      refine .inr ⟨_, asks?_eq g hguarded hq, (guarded?_called g x q _ _).trans hguarded, ?_, ?_⟩
      · rw [breakers_called, Qos.enter_some]
        rfl
      · intro call guard hcall hguard
        have hentered := entered_of_called hcall
        rw [Qos.enter_some] at hentered
        dsimp only at hentered
        split at hentered
        · rw [hguard] at hentered
          cases hentered
          rfl
        · cases hentered

end Calling

end Stage

namespace Run

/-- How a run goes on, and the breaker that it uses on the way. -/
structure CallStep (g : Gateway) (r : Run) (use : Option BreakerUse) (next : Gateway × Run) :
    Prop where
  table : next.1.table = g.table
  resolved : ∀ found, next.2.exchange.resolved = some found →
    r.exchange.resolved = some found ∨ found.route ∈ g.table.routes
  used : Used g.breakers use next.1.breakers
  /-- A run that waits has waited before, or its call begins. -/
  waits : ∀ call guard, next.2.call? = some call → call.guard = some guard →
    next.2 = r ∨
    ∃ c, next.2.exchange.guarded? = some c ∧ use = some ⟨c, guard.breaker, true⟩

namespace CallStep

variable {g : Gateway}
variable {r : Run}
variable {use : Option BreakerUse}
variable {next : Gateway × Run}

theorem idle (g : Gateway) (r : Run) : CallStep g r none (g, r) :=
  ⟨rfl, fun _ => .inl, .nothing, fun _ _ _ _ => .inl rfl⟩

theorem vouched
    (h : CallStep g r use next)
    (hr : r.Vouched) :
    next.2.Vouched := by
  intro call guard hcall hguard
  rcases h.waits call guard hcall hguard with hsame | ⟨c, hc, _⟩
  · rw [hsame] at hcall ⊢
    exact hr call guard hcall hguard
  · exact ⟨c, hc⟩

theorem bound
    (h : CallStep g r use next)
    (hr : r.Bound g.breakers) :
    next.2.Bound next.1.breakers := by
  intro call guard c hcall hguard hc
  rcases h.waits call guard hcall hguard with hsame | ⟨c', hc', huse⟩
  · rw [hsame] at hcall hc
    exact h.used.scopes_of_some (hr call guard c hcall hguard hc)
  · rw [hc] at hc'
    cases hc'
    have hused := h.used
    rw [huse] at hused
    exact hused.scopes_asked rfl

/-- The end of a run uses no breaker. -/
theorem close
    {g' : Gateway}
    {x : Exchange}
    (htable : g'.table = g.table)
    (hresolved : ∀ found, x.resolved = some found →
      r.exchange.resolved = some found ∨ found.route ∈ g.table.routes)
    (hused : Used g.breakers use g'.breakers)
    (now : Instant) :
    CallStep g r use (Run.close now g' x) := by
  have hback := Gateway.SameDesk.giveBack g' x.lease
  refine ⟨hback.table.trans htable, hresolved, ?_, fun _ _ h => nomatch h⟩
  have hsame : (Run.close now g' x).1.breakers = g'.breakers := hback.breakers
  rw [hsame]
  exact hused

/-- What comes after a stage uses no breaker. -/
theorem after
    {p : Passage}
    (htable : p.gateway.table = g.table)
    (hresolved : ∀ found, p.exchange.resolved = some found →
      r.exchange.resolved = some found ∨ found.route ∈ g.table.routes)
    (hused : Used g.breakers use p.gateway.breakers)
    (hawait : ∀ call guard, p.verdict = .await call → call.guard = some guard →
      ∃ c, p.exchange.guarded? = some c ∧ use = some ⟨c, guard.breaker, true⟩)
    (now : Instant)
    (rest : List Stage) :
    CallStep g r use (Run.after now rest p) := by
  rcases after_cases now rest p with ⟨_, h⟩ | ⟨c, hv, h⟩ | ⟨_, h⟩ | ⟨e, _, h⟩ <;> rw [h]
  · exact ⟨htable, hresolved, hused, fun _ _ h => nomatch h⟩
  · refine ⟨htable, hresolved, hused, ?_⟩
    intro call guard hcall hguard
    cases hcall
    exact .inr (hawait _ guard hv hguard)
  · exact .close htable hresolved hused now
  · exact .close (x := p.exchange.refuse e) htable hresolved hused now

end CallStep

variable (s : Surroundings)
variable (g : Gateway)
variable (x : Exchange)

/-- A run that passes a stage asks a breaker if it calls its backend there. -/
theorem callStep_pass (stage : Stage) (rest : List Stage) :
    CallStep g ⟨x, .passing (stage :: rest)⟩ (asks? g ⟨x, .passing (stage :: rest)⟩)
      (after s.now rest (stage.pass s g x)) := by
  have hframe := Stage.callFrame_pass s g x stage
  by_cases hstage : stage = .backendCall
  · subst hstage
    rcases Stage.beginCall_asks s g x with ⟨hnone, hbreakers, hawait⟩ |
      ⟨c, hasks, hguarded, hbreakers, hawait⟩
    · refine .after hframe.table hframe.resolved ?_ ?_ s.now rest
      · show Used g.breakers (x.asks? g) (Stage.beginCall s g x).gateway.breakers
        rw [hnone, hbreakers]
        exact .nothing
      · intro call guard hcall hguard
        rw [hawait call hcall] at hguard
        cases hguard
    · refine .after hframe.table hframe.resolved ?_ ?_ s.now rest
      · show Used g.breakers (x.asks? g) (Stage.beginCall s g x).gateway.breakers
        rw [hasks, hbreakers]
        exact .asked c s.now
      · intro call guard hcall hguard
        refine ⟨c, hguarded, ?_⟩
        rw [hawait call guard hcall hguard]
        exact hasks
  · have hnone : asks? g ⟨x, .passing (stage :: rest)⟩ = none := by
      cases stage <;> first | rfl | exact absurd rfl hstage
    rw [hnone]
    refine .after hframe.table hframe.resolved ?_ ?_ s.now rest
    · rw [hframe.breakers hstage]
      exact .nothing
    · intro call guard hcall
      exact absurd hcall (hframe.answers hstage call)

/-- A run whose lease had to wait uses no breaker when the registry has answered. -/
theorem callStep_endLease (r : Run) (p : PendingLease) :
    CallStep g r none (r.endLease s g p) := by
  obtain ⟨x, phase⟩ := r
  unfold endLease
  split
  · have hframe := Stage.callFrame_endLease s g x p
    refine .after hframe.table hframe.resolved ?_ ?_ s.now _
    · rw [hframe.breakers (by decide)]
      exact .nothing
    · intro call guard hcall
      exact absurd hcall (hframe.answers (by decide) call)
  · exact .idle g _

/-- A call that is over tells the breaker that let it pass. -/
theorem used_leave
    {call : BackendCall}
    {rest : List Stage}
    (hr : Vouched ⟨x, .calling call rest⟩)
    (succeeded : Bool)
    (now : Instant) :
    Used g.breakers (tells? ⟨x, .calling call rest⟩)
      (Qos.leave g.breakers call.guard succeeded now).1 := by
  cases hguard : call.guard with
  | none =>
      have hnone : tells? ⟨x, .calling call rest⟩ = none := by simp [tells?, call?, hguard]
      rw [hnone]
      exact .nothing
  | some guard =>
      obtain ⟨c, htells⟩ := tells?_of_guard hr hguard
      rw [htells]
      exact .told c guard succeeded now

theorem callStep_endCall
    {call : BackendCall}
    {rest : List Stage}
    (hr : Vouched ⟨x, .calling call rest⟩)
    (now : Instant)
    (answer : Except GatewayError Response) :
    CallStep g ⟨x, .calling call rest⟩ (tells? ⟨x, .calling call rest⟩)
      (after now rest (Stage.endCall now g x call answer)) := by
  have hused := used_leave g x hr answer.isOk now
  have hanswers : ∀ c, (Stage.endCall now g x call answer).verdict ≠ .await c := by
    intro c hc
    cases answer <;> cases hc
  cases answer with
  | ok response =>
      refine .after ?_ ?_ ?_ (fun c _ hc => absurd hc (hanswers c)) now rest
      · rfl
      · exact fun _ => .inl
      · exact hused
  | error e =>
      refine .after ?_ ?_ ?_ (fun c _ hc => absurd hc (hanswers c)) now rest
      · rfl
      · exact fun _ => .inl
      · exact hused

/-- Each event of a run uses the breaker that it says, and no other one. -/
theorem callStep_meet
    {r : Run}
    (hr : r.Vouched)
    (e : Event) :
    CallStep g r (r.use? g e) (r.meet g e) := by
  obtain ⟨x, phase⟩ := r
  cases e with
  | pass s =>
      cases phase with
      | passing stages =>
          cases stages with
          | nil => exact .close rfl (fun _ => .inl) .nothing s.now
          | cons stage rest => exact callStep_pass s g x stage rest
      | calling call rest => exact .idle g _
      | ended response => exact .idle g _
  | answer now a =>
      cases phase with
      | passing stages => exact .idle g _
      | calling call rest => exact callStep_endCall g x hr now a
      | ended response => exact .idle g _
  | expire now =>
      cases phase with
      | passing stages => exact .idle g _
      | calling call rest =>
          have hstep := callStep_endCall (g.countFor "gateway_downstream_timeouts_total" x.routeKey)
            x hr now (.error .downstreamTimeout)
          exact ⟨hstep.table, hstep.resolved, hstep.used, hstep.waits⟩
      | ended response => exact .idle g _

/-- A run that is given up tells its breaker. -/
theorem used_abandon
    {r : Run}
    (hr : r.Vouched)
    (now : Instant) :
    Used g.breakers r.tells? (r.abandon now g).breakers ∧ (r.abandon now g).table = g.table := by
  obtain ⟨x, phase⟩ := r
  cases phase with
  | passing stages =>
      have hback := Gateway.SameDesk.giveBack g x.lease
      refine ⟨?_, hback.table⟩
      show Used g.breakers none (g.giveBack x.lease).breakers
      rw [hback.breakers]
      exact .nothing
  | calling call rest =>
      have hback := Gateway.SameDesk.giveBack
        { g with breakers := (Qos.leave g.breakers call.guard false now).1 } x.lease
      refine ⟨?_, hback.table⟩
      show Used g.breakers _ (Gateway.giveBack _ x.lease).breakers
      rw [hback.breakers]
      exact used_leave g x hr false now
  | ended response =>
      have hback := Gateway.SameDesk.giveBack g x.lease
      refine ⟨?_, hback.table⟩
      show Used g.breakers none (g.giveBack x.lease).breakers
      rw [hback.breakers]
      exact .nothing

end Run
end ApiGateway
