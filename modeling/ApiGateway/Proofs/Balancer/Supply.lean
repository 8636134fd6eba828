import ApiGateway.Proofs.Balancer.Outline
import ApiGateway.Proofs.Route.Services
import ApiGateway.Run.Backend

/-!
# Where the backends of a route come from

The source of a load balancer is settled when it is made: listed backends for a route that has them,
and the registry of the directory of that time for a route with a service name. What a route is
supplied from is the source, as it was made, of the load balancer that its look-up leads to. Listed
backends are all that a lease needs; without a source there is none.
-/

namespace ApiGateway

namespace ServiceSource

theorem origin_origin (source : ServiceSource) : source.origin.origin = source.origin := by
  cases source <;> rfl

/-- Listed backends are as they were made. -/
theorem eq_listed_of_origin
    {source : ServiceSource}
    {services : List Service}
    (h : source.origin = .listed services) :
    source = .listed services := by
  cases source with
  | listed services' => exact h
  | registered service => cases h

end ServiceSource

namespace Balancer.Rule

theorem leastLoaded_mem
    (m : InFlight)
    (best : Service)
    (ss : List Service) :
    leastLoaded m best ss ∈ best :: ss := by
  induction ss generalizing best with
  | nil => exact List.mem_cons_self
  | cons s ss ih =>
      unfold leastLoaded
      split
      · exact List.mem_cons_of_mem best (ih s)
      · rcases List.mem_cons.1 (ih best) with hbest | hrest
        · rw [hbest]
          exact List.mem_cons_self
        · exact List.mem_cons_of_mem best (List.mem_cons_of_mem s hrest)

/-- Where there are backends, one of them is chosen. -/
theorem exists_pick
    (r : Rule)
    {services : List Service}
    (h : services ≠ []) :
    ∃ s r', r.pick services = .ok (s, r') ∧ s ∈ services := by
  obtain ⟨first, rest, rfl⟩ := List.exists_cons_of_ne_nil h
  cases r with
  | inTurn n =>
      have hlt : n % (first :: rest).length < (first :: rest).length :=
        Nat.mod_lt n (Nat.succ_pos _)
      refine ⟨_, _, rfl, ?_⟩
      rw [List.getElem?_eq_getElem hlt]
      exact List.getElem_mem hlt
  | byLoad m => exact ⟨_, _, rfl, leastLoaded_mem _ first rest⟩
  | alwaysFirst => exact ⟨_, _, rfl, List.mem_cons_self⟩

end Balancer.Rule

namespace BalancerRegistry

/-- What a route is supplied from. -/
def supply (r : BalancerRegistry) (route : Route) : Except GatewayError ServiceSource := do
  let (r, i) ← r.get route
  match r.balancers[i]? with
  | some b => return b.source.origin
  | none => throw (.internal "no such load balancer")

variable {r : BalancerRegistry}
variable {route : Route}

theorem supply_outline (r : BalancerRegistry) (route : Route) :
    r.outline.supply route = r.supply route := by
  unfold supply
  rw [get_outline]
  cases r.get route with
  | error e => rfl
  | ok found =>
      obtain ⟨r', i⟩ := found
      simp only [seen, Except.map, bind, Except.bind, getElem?_outline]
      cases r'.balancers[i]? with
      | none => rfl
      | some b => exact congrArg Except.ok b.source.origin_origin

/-- A route is supplied from a source if the load balancer that it finds is, and a new one. -/
theorem supply_eq
    {source : Except GatewayError ServiceSource}
    (hfound : ∀ current,
      r.registered[route.key]? = some current →
      current.generation = route.generation →
      ∃ b, r.balancers[current.index]? = some b ∧ source = .ok b.source.origin)
    (hnew : r.directory.sourceOf route = source) :
    r.supply route = source := by
  have hentered := r.entered_get route
  have hpushed : ∀ made : ServiceSource,
      (r.balancers.push ⟨made, .ofKind route.balancerKind⟩)[r.balancers.size]? =
        some ⟨made, .ofKind route.balancerKind⟩ :=
    fun made => Array.getElem?_push_size
  unfold supply
  generalize r.get route = result at hentered ⊢
  cases hentered with
  | @found current hcurrent hsame =>
      obtain ⟨b, hb, hsource⟩ := hfound current hcurrent hsame
      simp only [bind, Except.bind, hb, hsource]
      rfl
  | @detached current made hcurrent holder hmade =>
      simp only [bind, Except.bind, add, hpushed]
      rw [ServiceSource.origin_of_directory hmade, ← hnew]
      exact hmade.symm
  | @installed made hnewer hmade =>
      simp only [bind, Except.bind, install, add, hpushed]
      rw [ServiceSource.origin_of_directory hmade, ← hnew]
      exact hmade.symm
  | failed _ herror => exact herror.symm.trans hnew

end BalancerRegistry

namespace Gateway

variable {g : Gateway}
variable {route : Route}

/-- A route that is supplied from listed backends gets one of these on lease. -/
theorem exists_lease_of_listed
    {services : List Service}
    (h : g.balancers.supply route = .ok (.listed services))
    (hsome : services ≠ [])
    (s : Surroundings) :
    ∃ l, (g.takeLease s route).2 = .ok l ∧ l.service ∈ services := by
  obtain ⟨⟨balancers, i⟩, hget, h⟩ := bind_eq_ok.1 h
  dsimp only at h
  cases hb : balancers.balancers[i]? with
  | none =>
      rw [hb] at h
      cases h
  | some b =>
      rw [hb] at h
      have hsource := ServiceSource.eq_listed_of_origin (Except.ok.inj h)
      obtain ⟨service, rule, hpick, hmem⟩ := b.rule.exists_pick hsome
      refine ⟨⟨i, rule.kind, service⟩, ?_, hmem⟩
      have hlease : b.lease s.registry s.now = (⟨b.source, rule⟩, .ok service) := by
        simp only [Balancer.lease, hsource, ServiceSource.read, ServiceSource.beginRead,
          Balancer.choose, hpick]
      unfold takeLease
      rw [hget]
      simp only [BalancerRegistry.lease, BalancerRegistry.leaseBy, hb, hlease]
      rfl

/-- A route that is not supplied gets nothing on lease. -/
theorem takeLease_of_supply_error
    {e : GatewayError}
    (h : g.balancers.supply route = .error e)
    (s : Surroundings) :
    (g.takeLease s route).2 = .error e := by
  unfold takeLease
  unfold BalancerRegistry.supply at h
  cases hget : g.balancers.get route with
  | error e' =>
      rw [hget] at h
      cases h
      rfl
  | ok found =>
      obtain ⟨balancers, i⟩ := found
      simp only [hget, bind, Except.bind] at h
      cases hb : balancers.balancers[i]? with
      | some b =>
          simp only [hb] at h
          cases h
      | none =>
          simp only [hb] at h
          cases h
          simp only [BalancerRegistry.lease, BalancerRegistry.leaseBy, hb]

end Gateway
end ApiGateway
