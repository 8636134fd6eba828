import ApiGateway.Proofs.Run.Guarded
import ApiGateway.Proofs.Traffic.Basic

/-!
# Breakers in traffic

However requests, cancellations and new configurations take turns, each event uses one breaker at
most, on behalf of one call of one request, or it forgets all scopes.
-/

namespace ApiGateway
namespace Traffic

/-- What a run has to do with a breaker at an event, unless the registry was asked for its lease. -/
def useOf (t : Traffic) (id : Nat) (r : Run) (e : Run.Event) : Option BreakerUse :=
  match e, t.begun id with
  | .pass _, some _ => none
  | e, _ => r.use? t.gateway e

/-- What the requests have to do with a breaker at an event. -/
def use? (t : Traffic) : Event → Option BreakerUse
  | .meet id e => (t.pending? id).bind fun r => t.useOf id r e
  | .abandon id _ => (t.pending? id).bind (·.tells?)
  | _ => none

/-- What the requests have to do with breakers in the course of events. -/
def uses (t : Traffic) : List Event → List BreakerUse
  | [] => []
  | e :: es => (t.use? e).toList ++ uses (t.meet e) es

/-- Whether an event forgets all scopes; a configuration that is refused does not. -/
def forgets (t : Traffic) : Event → Bool
  | .reload config => (t.gateway.reload config).2.isOk
  | .clearBreakers => true
  | _ => false

/-- Whether an event is a new configuration or a part of one. -/
def Event.renews : Event → Bool
  | reload _ => true
  | prepare _ => true
  | putTable _ => true
  | putConfig _ => true
  | resetBalancers _ => true
  | clearBreakers => true
  | _ => false

/-- All runs that wait under a guard know their calls. -/
def Vouched (t : Traffic) : Prop :=
  ∀ id r, t.pending? id = some r → r.Vouched

/-- What an event does to the breakers and to the calls of the requests. -/
structure Guarding (t : Traffic) (e : Event) (t' : Traffic) : Prop where
  table : e.renews = false → t'.gateway.table = t.gateway.table
  used : t.forgets e = false → Used t.gateway.breakers (t.use? e) t'.gateway.breakers
  forgot : t.forgets e = true → t.use? e = none ∧ t'.gateway.breakers = t.gateway.breakers.clear
  runs : ∀ id r', t'.pending? id = some r' →
    t.pending? id = some r' ∨
    (∃ request peer requestId now, r' = .start request peer requestId now) ∨
    ∃ r, t.pending? id = some r ∧ r.CallStep t.gateway (t.use? e) (t'.gateway, r')

namespace Guarding

variable {t t' : Traffic}
variable {e : Event}

/-- An event that has nothing to do with calls. -/
theorem quiet
    (htable : e.renews = false → t'.gateway.table = t.gateway.table)
    (hforgets : t.forgets e = false)
    (huse : t.use? e = none)
    (hbreakers : t'.gateway.breakers = t.gateway.breakers)
    (hruns : t'.runs = t.runs) :
    Guarding t e t' := by
  refine ⟨htable, ?_, ?_, ?_⟩
  · intro _
    rw [huse, hbreakers]
    exact .nothing
  · intro h
    rw [hforgets] at h
    cases h
  · intro id r' hr'
    unfold pending? at hr' ⊢
    exact .inl (hruns ▸ hr')

/-- One run goes on, or is given up. -/
theorem replace
    {id : Nat}
    {r : Run}
    (hr : t.pending? id = some r)
    {g : Gateway}
    {o : Option Run}
    {begun : Nat → Option PendingLease}
    (htable : g.table = t.gateway.table)
    (hforgets : t.forgets e = false)
    (hused : Used t.gateway.breakers (t.use? e) g.breakers)
    (hstep : ∀ r', o = some r' → r.CallStep t.gateway (t.use? e) (g, r')) :
    Guarding t e ⟨g, t.runs.set id o, begun⟩ := by
  refine ⟨fun _ => htable, fun _ => hused, ?_, ?_⟩
  · intro h
    rw [hforgets] at h
    cases h
  · intro other r' hr'
    rw [pending?_set g o begun (lt_of_pending?_eq_some hr)] at hr'
    split at hr'
    · rename_i heq
      subst heq
      exact .inr (.inr ⟨r, hr, hstep r' (Option.filter_eq_some_iff.1 hr').1⟩)
    · exact .inl hr'

end Guarding

section Events

variable {t : Traffic}

theorem sameDesk_beginLease?
    {now : Instant}
    {g g' : Gateway}
    {r : Run}
    {p : PendingLease}
    (h : r.beginLease? now g = some (g', p)) :
    g.SameDesk g' := by
  unfold Run.beginLease? at h
  split at h
  · obtain ⟨x, _, h⟩ := Option.bind_eq_some_iff.1 h
    unfold Gateway.beginLease? at h
    split at h
    · cases h
    · obtain ⟨p', _, heq⟩ := Option.map_eq_some_iff.1 h
      cases heq
      exact ⟨rfl, rfl⟩
  · cases h

theorem guarding_turn
    (hv : t.Vouched)
    {id : Nat}
    {r : Run}
    (hr : t.pending? id = some r)
    (e : Run.Event) :
    Guarding t (.meet id e) (t.turn id r e) := by
  have huse : t.use? (.meet id e) = t.useOf id r e := by
    rw [use?, hr, Option.bind_some]
  have hmeet : t.useOf id r e = r.use? t.gateway e →
      Guarding t (.meet id e) (t.put id (r.meet t.gateway e)) := by
    intro hsame
    have hstep := Run.callStep_meet t.gateway (hv id r hr) e
    rw [← hsame, ← huse] at hstep
    refine .replace hr hstep.table rfl hstep.used fun r' hr' => ?_
    cases hr'
    exact hstep
  cases e with
  | pass s =>
      cases hbegun : t.begun id with
      | none =>
          simp only [turn, hbegun]
          exact hmeet (by simp only [useOf, hbegun])
      | some p =>
          have hstep := Run.callStep_endLease s t.gateway r p
          have hnone : t.use? (.meet id (.pass s)) = none := by
            rw [huse]
            simp only [useOf, hbegun]
          rw [← hnone] at hstep
          simp only [turn, hbegun]
          refine .replace hr hstep.table rfl hstep.used fun r' hr' => ?_
          cases hr'
          exact hstep
  | answer now a => exact hmeet rfl
  | expire now => exact hmeet rfl

theorem guarding_ask
    (id : Nat)
    (now : Instant)
    (r : Run) :
    Guarding t (.beginLease id now) (t.ask id now r) := by
  unfold ask
  split
  · rename_i g p _ hbegun
    have hsame := sameDesk_beginLease? hbegun
    exact .quiet (fun _ => hsame.table) rfl rfl hsame.breakers rfl
  · exact .quiet (fun _ => rfl) rfl rfl rfl rfl

theorem sameDesk_prepare (g : Gateway) (config : Config.Gateway) :
    g.SameDesk (g.prepare config).1 := by
  unfold Gateway.prepare
  split
  · exact ⟨rfl, rfl⟩
  · dsimp only
    split <;> exact ⟨rfl, rfl⟩

/-- A new configuration forgets all scopes, or leaves the breakers alone where it is refused. -/
theorem breakers_reload (g : Gateway) (config : Config.Gateway) :
    (g.reload config).1.breakers =
      if (g.reload config).2.isOk then g.breakers.clear else g.breakers := by
  have hprepare := (sameDesk_prepare g config).breakers
  unfold Gateway.reload
  cases h : g.prepare config with
  | mk g' result =>
      rw [h] at hprepare
      cases result with
      | error f => exact hprepare
      | ok p => exact congrArg BreakerRegistry.clear hprepare

theorem sameDesk_administer
    (g : Gateway)
    (exposition : String)
    (method : Method)
    (path : String) :
    g.SameDesk (g.administer exposition method path).1 := by
  unfold Gateway.administer Gateway.administerRegion
  split
  · exact ⟨rfl, rfl⟩
  split
  · exact ⟨rfl, rfl⟩
  split
  · exact ⟨rfl, rfl⟩
  split
  · exact ⟨rfl, rfl⟩
  split
  · split <;> exact ⟨rfl, rfl⟩
  · exact ⟨rfl, rfl⟩

/-- Every event uses one breaker at most, or forgets all scopes. -/
theorem guarding_meet (hv : t.Vouched) (e : Event) : Guarding t e (t.meet e) := by
  cases e with
  | arrive request peer requestId now =>
      refine ⟨fun _ => rfl, fun _ => .nothing, (fun h => nomatch h), ?_⟩
      intro id r' hr'
      rw [meet, pending?_append (.start request peer requestId now) rfl] at hr'
      split at hr'
      · cases hr'
        exact .inr (.inl ⟨request, peer, requestId, now, rfl⟩)
      · exact .inl hr'
  | beginLease id now =>
      cases hr : t.pending? id with
      | none =>
          simp only [meet, hr]
          exact .quiet (fun _ => rfl) rfl rfl rfl rfl
      | some r =>
          simp only [meet, hr]
          exact guarding_ask id now r
  | meet id e =>
      cases hr : t.pending? id with
      | none =>
          simp only [meet, hr]
          exact .quiet (fun _ => rfl) rfl (by rw [use?, hr]; rfl) rfl rfl
      | some r =>
          simp only [meet, hr]
          exact guarding_turn hv hr e
  | abandon id now =>
      cases hr : t.pending? id with
      | none =>
          simp only [meet, hr]
          exact .quiet (fun _ => rfl) rfl (by rw [use?, hr]; rfl) rfl rfl
      | some r =>
          simp only [meet, hr]
          obtain ⟨hused, htable⟩ := Run.used_abandon t.gateway (hv id r hr) now
          refine .replace hr htable rfl ?_ (fun r' hr' => nomatch hr')
          rw [use?, hr, Option.bind_some]
          exact hused
  | reload config =>
      have hbreakers := breakers_reload t.gateway config
      refine ⟨(fun h => nomatch h), ?_, ?_, fun id r' hr' => .inl hr'⟩
      · intro h
        rw [meet, hbreakers, if_neg (by rw [forgets] at h; simp [h])]
        exact .nothing
      · intro h
        refine ⟨rfl, ?_⟩
        rw [forgets] at h
        rw [meet, hbreakers, if_pos h]
  | prepare config =>
      exact .quiet (fun h => nomatch h) rfl rfl (sameDesk_prepare t.gateway config).breakers rfl
  | putTable table => exact .quiet (fun h => nomatch h) rfl rfl rfl rfl
  | putConfig config => exact .quiet (fun h => nomatch h) rfl rfl rfl rfl
  | resetBalancers directory => exact .quiet (fun h => nomatch h) rfl rfl rfl rfl
  | clearBreakers =>
      exact ⟨(fun h => nomatch h), (fun h => nomatch h), fun _ => ⟨rfl, rfl⟩,
        fun id r' hr' => .inl hr'⟩
  | sweep before now => exact .quiet (fun _ => rfl) rfl rfl rfl rfl
  | administer exposition method path =>
      have hsame := sameDesk_administer t.gateway exposition method path
      exact .quiet (fun _ => hsame.table) rfl rfl hsame.breakers rfl

/-- A breaker is used by a pending request, for the guarded call that it is about. -/
theorem exists_useOf
    {e : Event}
    {u : BreakerUse}
    (h : t.use? e = some u) :
    ∃ id r, t.pending? id = some r ∧ r.UseOf u := by
  cases e with
  | meet id e =>
      obtain ⟨r, hr, h⟩ := Option.bind_eq_some_iff.1 h
      unfold useOf at h
      split at h
      · cases h
      · exact ⟨id, r, hr, Run.useOf_use? h⟩
  | abandon id now =>
      obtain ⟨r, hr, h⟩ := Option.bind_eq_some_iff.1 h
      exact ⟨id, r, hr, Run.useOf_tells? h⟩
  | _ => cases h

theorem forgets_of_renews
    {e : Event}
    (h : e.renews = false) :
    t.forgets e = false := by
  cases e <;> first | rfl | cases h

/-- All runs that wait under a guard go on to know their calls. -/
theorem Vouched.meet (hv : t.Vouched) (e : Event) : (t.meet e).Vouched := by
  intro id r' hr'
  rcases (guarding_meet hv e).runs id r' hr' with hr | ⟨request, peer, requestId, now, rfl⟩ |
    ⟨r, hr, hstep⟩
  · exact hv id r' hr
  · exact fun call guard hcall => nomatch hcall
  · exact hstep.vouched (hv id r hr)

theorem vouched_new (g : Gateway) : (Traffic.new g).Vouched := by
  intro id r hr
  have hlt := lt_of_pending?_eq_some hr
  exact absurd hlt (Nat.not_lt_zero id)

theorem Vouched.after (hv : t.Vouched) (events : List Event) : (t.after events).Vouched := by
  induction events generalizing t with
  | nil => exact hv
  | cons e es ih => exact ih (hv.meet e)

end Events
end Traffic
end ApiGateway
