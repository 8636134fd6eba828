import ApiGateway.Proofs.Qos.Switchboard
import ApiGateway.Proofs.Run.History

/-!
# Uses of breakers

What a run has to do with breakers: when it comes to call its backend, it asks the breaker of its
scope, and when the call is over, it tells this breaker how. `Run.use?` says for each event of a run
which breaker that is and on whose behalf, and `Used` what a registry is like afterwards.
-/

namespace ApiGateway

/-- A call of a route with a policy to an endpoint. -/
structure GuardedCall where
  route : Route
  policy : Qos.Policy
  endpoint : String

def GuardedCall.scope (c : GuardedCall) : String :=
  c.policy.scopeKey c.route.key c.endpoint

/-- What a call has to do with a breaker: it asks at its beginning and tells at its end. -/
structure BreakerUse where
  call : GuardedCall
  breaker : Nat
  asks : Bool

/-- The guarded call that an exchange is about. -/
def Exchange.guarded? (x : Exchange) : Option GuardedCall := do
  let found ← x.resolved
  let policy ← found.route.qos
  let l ← x.lease
  return ⟨found.route, policy, l.service.endpoint⟩

/-- The breaker that an exchange asks when its backend is called. -/
def Exchange.asks? (g : Gateway) (x : Exchange) : Option BreakerUse := do
  let c ← x.guarded?
  let _ ← x.outbound
  return ⟨c, (g.breakers.getOrCreate c.scope c.policy.breaker).2, true⟩

/-- The guarded call of an exchange is one of its route, under the policy of this route. -/
theorem Exchange.guarded?_eq_some
    {x : Exchange}
    {c : GuardedCall}
    (h : x.guarded? = some c) :
    ∃ found,
      x.resolved = some found ∧
      found.route = c.route ∧
      c.route.qos = some c.policy := by
  obtain ⟨found, hfound, h⟩ := Option.bind_eq_some_iff.1 h
  obtain ⟨policy, hpolicy, h⟩ := Option.bind_eq_some_iff.1 h
  obtain ⟨l, _, h⟩ := Option.bind_eq_some_iff.1 h
  cases h
  exact ⟨found, hfound, rfl, hpolicy⟩

namespace Run

/-- The breaker that a run asks when it passes its next stage. -/
def asks? (g : Gateway) (r : Run) : Option BreakerUse :=
  match r.phase with
  | .passing (.backendCall :: _) => r.exchange.asks? g
  | _ => none

/-- The breaker that a run tells how the call ended for which it waits. -/
def tells? (r : Run) : Option BreakerUse := do
  let call ← r.call?
  let guard ← call.guard
  let c ← r.exchange.guarded?
  return ⟨c, guard.breaker, false⟩

/-- What a run has to do with a breaker at an event. -/
def use? (g : Gateway) (r : Run) : Event → Option BreakerUse
  | .pass _ => r.asks? g
  | .answer _ _ => r.tells?
  | .expire _ => r.tells?

/-- Whoever uses a breaker does it for the guarded call that it is about. -/
structure UseOf (r : Run) (u : BreakerUse) : Prop where
  guarded : r.exchange.guarded? = some u.call
  tells : u.asks = false →
    ∃ call guard, r.call? = some call ∧ call.guard = some guard ∧ guard.breaker = u.breaker

theorem useOf_asks?
    {g : Gateway}
    {r : Run}
    {u : BreakerUse}
    (h : r.asks? g = some u) :
    r.UseOf u := by
  unfold asks? at h
  split at h
  · obtain ⟨c, hc, h⟩ := Option.bind_eq_some_iff.1 h
    obtain ⟨q, _, h⟩ := Option.bind_eq_some_iff.1 h
    cases h
    exact ⟨hc, fun h => nomatch h⟩
  · cases h

theorem useOf_tells?
    {r : Run}
    {u : BreakerUse}
    (h : r.tells? = some u) :
    r.UseOf u := by
  obtain ⟨call, hcall, h⟩ := Option.bind_eq_some_iff.1 h
  obtain ⟨guard, hguard, h⟩ := Option.bind_eq_some_iff.1 h
  obtain ⟨c, hc, h⟩ := Option.bind_eq_some_iff.1 h
  cases h
  exact ⟨hc, fun _ => ⟨call, guard, hcall, hguard, rfl⟩⟩

theorem useOf_use?
    {g : Gateway}
    {r : Run}
    {e : Event}
    {u : BreakerUse}
    (h : r.use? g e = some u) :
    r.UseOf u := by
  cases e with
  | pass s => exact useOf_asks? h
  | answer now a => exact useOf_tells? h
  | expire now => exact useOf_tells? h

/-- A run that waits under a guard knows its call. -/
def Vouched (r : Run) : Prop :=
  ∀ call guard, r.call? = some call → call.guard = some guard →
    ∃ c, r.exchange.guarded? = some c

/-- A run that waits under a guard tells the breaker from which it has it. -/
theorem tells?_of_guard
    {x : Exchange}
    {call : BackendCall}
    {rest : List Stage}
    {guard : Qos.Guard}
    (hr : Vouched ⟨x, .calling call rest⟩)
    (hguard : call.guard = some guard) :
    ∃ c, tells? ⟨x, .calling call rest⟩ = some ⟨c, guard.breaker, false⟩ := by
  obtain ⟨c, hc⟩ := hr call guard rfl hguard
  simp only at hc
  exact ⟨c, by simp [tells?, call?, hguard, hc]⟩

/-- A run that waits under a guard has it from the breaker of its scope. -/
def Bound (breakers : BreakerRegistry) (r : Run) : Prop :=
  ∀ call guard c, r.call? = some call → call.guard = some guard → r.exchange.guarded? = some c →
    breakers.scopes[c.scope]? = some guard.breaker

end Run

/-- How breakers go on where at most one of them is used. -/
inductive Used (r : BreakerRegistry) : Option BreakerUse → BreakerRegistry → Prop
  | nothing :
      Used r none r
  | asked (c : GuardedCall) (now : Instant) :
      Used r (some ⟨c, (r.getOrCreate c.scope c.policy.breaker).2, true⟩)
        ((r.getOrCreate c.scope c.policy.breaker).1.check
          (r.getOrCreate c.scope c.policy.breaker).2 now).1
  | told (c : GuardedCall) (guard : Qos.Guard) (succeeded : Bool) (now : Instant) :
      Used r (some ⟨c, guard.breaker, false⟩) (Qos.leave r (some guard) succeeded now).1

namespace Used

variable {r r' : BreakerRegistry}
variable {use : Option BreakerUse}

/-- No breaker changes but the one that is used. -/
theorem frame
    (h : Used r use r')
    {j : Nat}
    (hj : ∀ u, use = some u → u.breaker ≠ j) :
    r'.breakers[j]? = r.breakers[j]? := by
  cases h with
  | nothing => rfl
  | asked c now =>
      have hne := hj _ rfl
      rw [BreakerRegistry.getElem?_check, if_neg hne,
        BreakerRegistry.getElem?_getOrCreate_of_ne _ _ hne]
  | told c guard succeeded now =>
      rw [Qos.getElem?_leave, if_neg (hj _ rfl)]

/-- What a breaker is set to stays. -/
theorem settings
    (h : Used r use r')
    (hr : r.Sound)
    {j : Nat}
    {b : Breaker}
    (hb : r.breakers[j]? = some b) :
    ∃ b', r'.breakers[j]? = some b' ∧ b'.settings = b.settings := by
  cases h with
  | nothing => exact ⟨b, hb, rfl⟩
  | asked c now =>
      have hnext : (r.getOrCreate c.scope c.policy.breaker).1.breakers[j]? = some b := by
        by_cases hj : (r.getOrCreate c.scope c.policy.breaker).2 = j
        · subst hj
          rw [BreakerRegistry.getElem?_getOrCreate_self _ _ hr, hb, Option.getD_some]
        · rw [BreakerRegistry.getElem?_getOrCreate_of_ne _ _ hj, hb]
      rw [BreakerRegistry.getElem?_check, hnext]
      split
      · exact ⟨_, rfl, b.settings_check now⟩
      · exact ⟨b, rfl, rfl⟩
  | told c guard succeeded now =>
      rw [Qos.getElem?_leave, hb]
      split
      · exact ⟨_, rfl, b.settings_record _ _ _⟩
      · exact ⟨b, rfl, rfl⟩

/-- A scope has the breaker that it had, or gets the one that is asked. -/
theorem scopes
    (h : Used r use r')
    (scope : String) :
    r'.scopes[scope]? = r.scopes[scope]? ∨
    ∃ u,
      use = some u ∧
      u.asks = true ∧
      u.call.scope = scope ∧
      r.scopes[scope]? = none ∧
      r'.scopes[scope]? = some u.breaker := by
  cases h with
  | nothing => exact .inl rfl
  | asked c now =>
      rw [BreakerRegistry.scopes_check, BreakerRegistry.scopes_getOrCreate]
      split
      · rename_i hscope
        subst hscope
        rcases r.inCharge_getOrCreate c.scope c.policy.breaker with hi | ⟨hnone, _⟩
        · exact .inl hi.symm
        · exact .inr ⟨_, rfl, rfl, rfl, hnone, rfl⟩
      · exact .inl rfl
  | told c guard succeeded now =>
      rw [Qos.scopes_leave]
      exact .inl rfl

theorem scopes_of_some
    (h : Used r use r')
    {scope : String}
    {i : Nat}
    (hi : r.scopes[scope]? = some i) :
    r'.scopes[scope]? = some i := by
  rcases h.scopes scope with hsame | ⟨_, _, _, _, hnone, _⟩
  · rw [hsame, hi]
  · rw [hi] at hnone
    cases hnone

/-- Whoever asks is answered by the breaker of its scope. -/
theorem scopes_asked
    {u : BreakerUse}
    (h : Used r (some u) r')
    (hasks : u.asks = true) :
    r'.scopes[u.call.scope]? = some u.breaker := by
  cases h with
  | asked c now => rw [BreakerRegistry.scopes_check, BreakerRegistry.scopes_getOrCreate, if_pos rfl]
  | told c guard succeeded now => cases hasks

/-- A scope that had no breaker gets one with the settings of the call that asks. -/
theorem founded
    {u : BreakerUse}
    (h : Used r (some u) r')
    (hr : r.Sound)
    (hasks : u.asks = true)
    (hnone : r.scopes[u.call.scope]? = none) :
    ∃ b, r'.breakers[u.breaker]? = some b ∧ b.settings = u.call.policy.breaker := by
  cases h with
  | asked c now =>
      have hi := r.inCharge_getOrCreate c.scope c.policy.breaker
      rw [hnone] at hi
      obtain ⟨_, hi⟩ := hi.resolve_left (fun h => by cases h)
      have hnew : r.breakers[(r.getOrCreate c.scope c.policy.breaker).2]? = none := by
        rw [← hi]
        exact Array.getElem?_eq_none (Nat.le_refl _)
      refine ⟨(({ settings := c.policy.breaker } : Breaker).check now).1, ?_,
        Breaker.settings_check _ now⟩
      rw [BreakerRegistry.getElem?_check, if_pos rfl,
        BreakerRegistry.getElem?_getOrCreate_self _ _ hr, hnew]
      rfl
  | told c guard succeeded now => cases hasks

theorem sound
    (h : Used r use r')
    (hr : r.Sound) :
    r'.Sound := by
  cases h with
  | nothing => exact hr
  | asked c now =>
      exact (BreakerRegistry.sound_getOrCreate c.scope c.policy.breaker hr).of_scopes
        (.inl (BreakerRegistry.scopes_check _ _ _))
        (Nat.le_of_eq (BreakerRegistry.size_check _ _ _).symm)
  | told c guard succeeded now =>
      exact hr.of_scopes (.inl (Qos.scopes_leave _ _ _ _))
        (Nat.le_of_eq (Qos.size_leave _ _ _ _).symm)

end Used

end ApiGateway
