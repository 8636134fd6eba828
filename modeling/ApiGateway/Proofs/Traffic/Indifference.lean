import ApiGateway.Proofs.Run.Indifference
import ApiGateway.Proofs.Traffic.Breakers

/-!
# Traffic and breakers that are not used

What an event does, to the requests and to all that they share, depends on no breaker but the one
that is used at it. So calls that use different breakers cannot tell what became of each other's.
-/

namespace ApiGateway

namespace Gateway

variable (g : Gateway)
variable (b : BreakerRegistry)

theorem prepare_withBreakers (config : Config.Gateway) :
    (g.withBreakers b).prepare config =
      ((g.prepare config).1.withBreakers b, (g.prepare config).2) := by
  unfold prepare withBreakers
  cases config.validate with
  | error v => rfl
  | ok u =>
      dsimp only
      cases RouteTable.compile g.nextGeneration config <;> rfl

theorem reload_withBreakers (config : Config.Gateway) :
    ((g.withBreakers b).reload config).1 =
      (g.reload config).1.withBreakers
        (if (g.reload config).2.isOk then b.clear else b) := by
  unfold reload
  rw [prepare_withBreakers]
  obtain ⟨g', result⟩ := g.prepare config
  cases result <;> rfl

theorem administer_withBreakers (exposition : String) (method : Method) (path : String) :
    ((g.withBreakers b).administer exposition method path).1 =
      (g.administer exposition method path).1.withBreakers b := by
  unfold administer administerRegion
  split
  · rfl
  split
  · rfl
  split
  · rfl
  split
  · rfl
  split
  · split <;> rfl
  · rfl

theorem beginLease?_withBreakers (now : Instant) (r : Route) :
    (g.withBreakers b).beginLease? now r =
      (g.beginLease? now r).map fun begun => (begun.1.withBreakers b, begun.2) := by
  unfold beginLease? withBreakers
  dsimp only
  cases g.balancers.get r with
  | error e => rfl
  | ok found =>
      dsimp only
      cases found.1.beginLease? found.2 now <;> rfl

end Gateway

namespace Run

theorem beginLease?_withBreakers (g : Gateway) (b : BreakerRegistry) (now : Instant) (r : Run) :
    r.beginLease? now (g.withBreakers b) =
      (r.beginLease? now g).map fun begun => (begun.1.withBreakers b, begun.2) := by
  unfold beginLease?
  split
  · cases r.exchange.resolved with
    | none => rfl
    | some found => exact g.beginLease?_withBreakers b now found.route
  · rfl

end Run

namespace Traffic

def withBreakers (t : Traffic) (b : BreakerRegistry) : Traffic :=
  { t with gateway := t.gateway.withBreakers b }

/-- An event looks at no breaker but the one that is used at it. -/
def LooksAtUsedOnly (t : Traffic) (e : Event) : Prop :=
  ∀ b, AgreeOn (t.use? e) t.gateway.breakers b →
    ∃ b',
      (t.withBreakers b).meet e = (t.meet e).withBreakers b' ∧
      AgreeOn (t.use? e) (t.meet e).gateway.breakers b'

section Events

variable {t : Traffic}

theorem looksAtUsedOnly_of_same
    {e : Event}
    (hmeet : ∀ b, (t.withBreakers b).meet e = (t.meet e).withBreakers b)
    (hbreakers : (t.meet e).gateway.breakers = t.gateway.breakers) :
    t.LooksAtUsedOnly e := by
  intro b h
  refine ⟨b, hmeet b, ?_⟩
  rw [hbreakers]
  exact h

theorem ask_withBreakers
    (b : BreakerRegistry)
    (id : Nat)
    (now : Instant)
    (r : Run) :
    (t.withBreakers b).ask id now r = (t.ask id now r).withBreakers b := by
  unfold ask
  rw [show (t.withBreakers b).begun = t.begun from rfl,
    show (t.withBreakers b).gateway = t.gateway.withBreakers b from rfl,
    r.beginLease?_withBreakers]
  cases t.begun id with
  | some p => rfl
  | none => cases r.beginLease? now t.gateway <;> rfl

theorem breakers_ask
    (id : Nat)
    (now : Instant)
    (r : Run) :
    (t.ask id now r).gateway.breakers = t.gateway.breakers := by
  unfold ask
  split
  · rename_i g p _ hbegun
    exact (sameDesk_beginLease? hbegun).breakers
  · rfl

theorem looksAtUsedOnly_turn
    (hv : t.Vouched)
    {id : Nat}
    {r : Run}
    (hr : t.pending? id = some r)
    (e : Run.Event) :
    ∀ b, AgreeOn (t.useOf id r e) t.gateway.breakers b →
      ∃ b',
        (t.withBreakers b).turn id r e = (t.turn id r e).withBreakers b' ∧
        AgreeOn (t.useOf id r e) (t.turn id r e).gateway.breakers b' := by
  intro b h
  have hmeet (huse : t.useOf id r e = r.use? t.gateway e) :
      ∃ b',
        (t.withBreakers b).put id (r.meet (t.gateway.withBreakers b) e) =
          (t.put id (r.meet t.gateway e)).withBreakers b' ∧
        AgreeOn (t.useOf id r e) (t.put id (r.meet t.gateway e)).gateway.breakers b' := by
    rw [huse] at h ⊢
    obtain ⟨b', heq, hagree⟩ := r.indifferent_meet (hv id r hr) e h
    rw [heq]
    exact ⟨b', rfl, hagree⟩
  cases e with
  | pass s =>
      have hsame : (t.withBreakers b).begun id = t.begun id := rfl
      cases hbegun : t.begun id with
      | none =>
          rw [hbegun] at hsame
          simp only [turn, hbegun, hsame]
          exact hmeet (by simp only [useOf, hbegun])
      | some p =>
          -- only the lease is taken here, by what the registry has answered
          rw [hbegun] at hsame
          simp only [useOf, hbegun] at h
          simp only [turn, useOf, hbegun, hsame]
          obtain ⟨b', heq, hagree⟩ := r.indifferent_endLease h s p
          refine ⟨b', ?_, hagree⟩
          rw [show (t.withBreakers b).gateway = t.gateway.withBreakers b from rfl, heq]
          rfl
  | answer now a => exact hmeet rfl
  | expire now => exact hmeet rfl

theorem looksAtUsedOnly_reload (config : Config.Gateway) :
    t.LooksAtUsedOnly (.reload config) := by
  intro b h
  refine ⟨_, congrArg (fun g => { t with gateway := g })
    (t.gateway.reload_withBreakers b config), ?_⟩
  rw [meet, breakers_reload]
  -- whether it is accepted does not depend on breakers
  split
  · exact .of_none rfl h.size
  · exact h

/-- No event looks at a breaker but the one that is used at it. -/
theorem looksAtUsedOnly_meet (hv : t.Vouched) (e : Event) : t.LooksAtUsedOnly e := by
  have hpending : ∀ b id, (t.withBreakers b).pending? id = t.pending? id := fun b id => rfl
  cases e with
  | beginLease id now =>
      cases hr : t.pending? id with
      | none =>
          refine looksAtUsedOnly_of_same (fun b => ?_) ?_ <;>
            simp only [meet, hpending, hr]
      | some r =>
          refine looksAtUsedOnly_of_same (fun b => ?_) ?_ <;>
            simp only [meet, hpending, hr]
          · exact ask_withBreakers b id now r
          · exact breakers_ask id now r
  | meet id e =>
      cases hr : t.pending? id with
      | none =>
          refine looksAtUsedOnly_of_same (fun b => ?_) ?_ <;>
            simp only [meet, hpending, hr]
      | some r =>
          unfold LooksAtUsedOnly
          simp only [use?, meet, hpending, hr, Option.bind_some]
          exact looksAtUsedOnly_turn hv hr e
  | abandon id now =>
      cases hr : t.pending? id with
      | none =>
          refine looksAtUsedOnly_of_same (fun b => ?_) ?_ <;>
            simp only [meet, hpending, hr]
      | some r =>
          unfold LooksAtUsedOnly
          simp only [use?, meet, hpending, hr, Option.bind_some]
          intro b h
          obtain ⟨b', heq, hagree⟩ := r.abandon_withBreakers (hv id r hr) h now
          exact ⟨b', congrArg (Traffic.mk · _ _) heq, hagree⟩
  | reload config => exact looksAtUsedOnly_reload config
  | prepare config =>
      refine looksAtUsedOnly_of_same (fun b => ?_) (sameDesk_prepare t.gateway config).breakers
      exact congrArg (fun g => { t with gateway := g })
        (congrArg Prod.fst (t.gateway.prepare_withBreakers b config))
  | administer exposition method path =>
      refine looksAtUsedOnly_of_same (fun b => ?_)
        (sameDesk_administer t.gateway exposition method path).breakers
      exact congrArg (fun g => { t with gateway := g })
        (t.gateway.administer_withBreakers b exposition method path)
  | clearBreakers => exact fun b h => ⟨b.clear, rfl, .of_none rfl h.size⟩
  | arrive request peer requestId now => exact looksAtUsedOnly_of_same (fun _ => rfl) rfl
  | putTable table => exact looksAtUsedOnly_of_same (fun _ => rfl) rfl
  | putConfig config => exact looksAtUsedOnly_of_same (fun _ => rfl) rfl
  | resetBalancers directory => exact looksAtUsedOnly_of_same (fun _ => rfl) rfl
  | sweep before now => exact looksAtUsedOnly_of_same (fun _ => rfl) rfl

end Events
end Traffic
end ApiGateway
