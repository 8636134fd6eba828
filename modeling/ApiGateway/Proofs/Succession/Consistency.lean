import ApiGateway.Proofs.Succession.Tickets

/-!
# Configurations are taken as a whole

A configuration that is refused, for whatever reason, leaves the gateway as it was but for the
number that was drawn; one that is taken is in force with all its parts, load balancers and breakers
are forgotten, and counters and cache stay. However configurations overlap each other and requests,
the table in force is that of the configuration in force whenever none is being put in force.

Main statement: `reloads_as_a_whole`.
-/

namespace ApiGateway

namespace Gateway

/-- The table and the directory are those of the configuration. -/
structure Consistent (g : Gateway) : Prop where
  table : ∃ generation, RouteTable.compile generation g.config = .ok g.table
  directory : g.balancers.directory = .ofConfig g.config.global.serviceDiscovery

/-- A configuration was put in force at a gateway. -/
structure TakesOver (g : Gateway) (c : Config.Gateway) (g' : Gateway) : Prop where
  config : g'.config = c
  table : RouteTable.compile g.nextGeneration c = .ok g'.table
  directory : g'.balancers.directory = .ofConfig c.global.serviceDiscovery
  balancers : g'.balancers.size = 0
  breakers : ∀ scope, g'.breakers.find? scope = none
  limiter : g'.limiter = g.limiter
  cache : g'.cache = g.cache

/-- What comes of taking a configuration. -/
structure AllOrNothing (maker : ClientMaker) (g : Gateway) (c : Config.Gateway) : Prop where
  refused : ∀ f, (g.reloadWith maker c).2 = .error f →
    ∃ n, (g.reloadWith maker c).1 = { g with nextGeneration := n }
  taken : (g.reloadWith maker c).2 = .ok () → g.TakesOver c (g.reloadWith maker c).1
  taken_iff : (g.reloadWith maker c).2 = .ok () ↔
    c.validate = .ok () ∧
    (∃ table, RouteTable.compile g.nextGeneration c = .ok table) ∧
    maker.serve c = .ok ()

/-- To put a prepared configuration in force is to take it over. -/
theorem takesOver_install
    {g : Gateway}
    {c : Config.Gateway}
    {table : RouteTable}
    (htable : RouteTable.compile g.nextGeneration c = .ok table) :
    g.TakesOver c (g.drawn.install ⟨c, table⟩) where
  config := rfl
  table := htable
  directory := rfl
  balancers := Std.ExtTreeMap.size_empty
  breakers scope := by
    unfold BreakerRegistry.find?
    simp [install, BreakerRegistry.clear]
  limiter := rfl
  cache := rfl

/-- A configuration that is refused for want of something leaves nothing but a number. -/
theorem allOrNothing_of_refused
    {maker : ClientMaker}
    {g : Gateway}
    {c : Config.Gateway}
    {n : Nat}
    {f : Config.Fault}
    (hreload : g.reloadWith maker c = ({ g with nextGeneration := n }, .error f))
    (hwant :
      c.validate = .ok () →
      (∃ table, RouteTable.compile g.nextGeneration c = .ok table) →
      maker.serve c ≠ .ok ()) :
    AllOrNothing maker g c := by
  constructor
  · intro f' _
    exact ⟨n, congrArg Prod.fst hreload⟩
  · intro h
    rw [hreload] at h
    cases h
  · rw [hreload]
    constructor
    · intro h
      cases h
    · rintro ⟨hvalid, htable, hserve⟩
      exact absurd hserve (hwant hvalid htable)

theorem allOrNothing (maker : ClientMaker) (g : Gateway) (c : Config.Gateway) :
    AllOrNothing maker g c := by
  have hpreparing := preparing_prepareWith maker g c
  generalize hresult : g.prepareWith maker c = result at hpreparing
  cases hpreparing with
  | @invalid v hinvalid =>
      have hreload : g.reloadWith maker c = (g, .error (.violation v)) := by
        rw [reloadWith, hresult]
      refine allOrNothing_of_refused hreload fun hvalid _ => ?_
      cases hinvalid.symm.trans hvalid
  | @uncompiled e _ hfailed =>
      have hreload : g.reloadWith maker c = (g.drawn, .error (.gateway e)) := by
        rw [reloadWith, hresult]
      refine allOrNothing_of_refused hreload fun _ htable => ?_
      obtain ⟨_, htable⟩ := htable
      cases hfailed.symm.trans htable
  | @unserved _ e _ _ hunserved =>
      have hreload : g.reloadWith maker c = (g.drawn, .error (.gateway e)) := by
        rw [reloadWith, hresult]
      refine allOrNothing_of_refused hreload fun _ _ hserve => ?_
      cases hunserved.symm.trans hserve
  | @ready table hvalid htable hserve =>
      have hreload : g.reloadWith maker c = (g.drawn.install ⟨c, table⟩, .ok ()) := by
        rw [reloadWith, hresult]
      refine ⟨?_, ?_, ?_⟩ <;> rw [hreload]
      · intro f h
        cases h
      · exact fun _ => takesOver_install htable
      · exact iff_of_true rfl ⟨hvalid, ⟨_, htable⟩, hserve⟩

end Gateway

namespace Succession

/-- While no configuration is being put in force, the one in force is so with all its parts. -/
theorem consistent_of_turn_eq_nil
    {o : Succession}
    (hticketed : o.Ticketed)
    (harrives : o.Arrives)
    (hturn : o.turn = []) :
    o.gateway.Consistent := by
  obtain ⟨k, before, hinstalled, hinForce⟩ := harrives.inForce hturn
  have hcompiled := hticketed.compiled_of_installed (hinstalled ▸ List.mem_cons_self)
  constructor
  · rw [hinForce.config, hinForce.table]
    exact ⟨k.generation, hcompiled⟩
  · rw [hinForce.config, hinForce.directory]
    rfl

/--
At every gateway, a configuration is taken as a whole or leaves no trace. The parts in which it is
taken make up the whole if nothing comes between them. And whatever comes between them, requests and
parts of other configurations, the table in force is that of the configuration in force whenever no
configuration is being put in force.
-/
theorem reloads_as_a_whole :
    (∀ maker g c, Gateway.AllOrNothing maker g c) ∧
    (∀ (o : Succession) maker c, o.waiting = [] → o.turn = [] →
      (o.after (reload maker c)).gateway = (o.gateway.reloadWith maker c).1) ∧
    ∀ (config : Config.Gateway) (g : Gateway) (events : List Event),
      Gateway.ofConfig config = .ok g →
      ((new g).after events).turn = [] →
      ((new g).after events).gateway.Consistent := by
  refine ⟨Gateway.allOrNothing, fun o maker c hwaiting hturn => ?_, ?_⟩
  · exact gateway_after_reload hwaiting hturn maker c
  · intro config g events hg hturn
    exact consistent_of_turn_eq_nil (ticketed_after hg events) (arrives_after hg events) hturn

/-- Where the turns come in the other order than the numbers, the last turn decides. -/
theorem reloads_as_a_whole_overlapping :
    ∃ g,
      Gateway.ofConfig (servedBy "zero") = .ok g ∧
      ((new g).after overlapping).turn = [] ∧
      ((new g).after overlapping).gateway.table.routes.map (·.generation) = [1] ∧
      ((new g).after overlapping).gateway.Consistent := by
  have hrun :
      ((Gateway.ofConfig (servedBy "zero")).toOption.map fun g =>
        (((new g).after overlapping).turn.isEmpty,
          ((new g).after overlapping).gateway.table.routes.map (·.generation))) =
      some (true, [1]) := by
    decide +kernel
  obtain ⟨g, hg, hrun⟩ := exists_eq_ok_of_map hrun
  obtain ⟨hempty, hgeneration⟩ := Prod.mk.inj hrun
  have hturn := List.isEmpty_iff.1 hempty
  exact ⟨g, hg, hturn, hgeneration, reloads_as_a_whole.2.2 _ g overlapping hg hturn⟩

end Succession
end ApiGateway
