import ApiGateway.Proofs.Balancer.Supply
import ApiGateway.Proofs.Route.Services
import ApiGateway.Proofs.Succession.Consistency
import ApiGateway.Proofs.Succession.Record

/-!
# Where the requests of former tables find their backends

A route carries its listed backends, or else the name of a service. Which registry is to be asked
for this service it does not carry: that is up to the directory in force. So a request that takes
its lease when the configuration that it was resolved under is gone has the backends of this one if
they are listed, and otherwise those of the registry of its successor, if there is one.

Main statement: `supplied_as_in_force`.
-/

namespace ApiGateway

namespace BalancerRegistry.Roster

/-- The load balancers that are registered have their sources by the directory in force. -/
def Sourced (r : Roster) : Prop :=
  ∀ (key : String) (current : RegisteredBalancer),
    r.registry.registered[key]? = some current →
    ∃ maker b,
      r.makers[current.index]? = some maker ∧
      r.registry.balancers[current.index]? = some b ∧
      r.registry.directory.sourceOf maker = .ok b.source

variable {r : Roster}

theorem sourced_of_empty (h : r.registry.registered = ∅) : r.Sourced := by
  intro key current hcurrent
  rw [h] at hcurrent
  cases hcurrent

/-- A load balancer stays in its place when there is one more. -/
theorem getElem?_add_of_some
    {registry : BalancerRegistry}
    {i : Nat}
    {b : Balancer}
    (h : registry.balancers[i]? = some b)
    (route : Route)
    (source : ServiceSource) :
    (registry.add route source).balancers[i]? = some b := by
  have hlt := (Array.getElem?_eq_some_iff.1 h).1
  rw [add, Array.getElem?_push, if_neg (Nat.ne_of_lt hlt), h]

theorem Sourced.ask
    (h : r.Sourced)
    {events : List Event}
    (hmade : Made events r)
    (way : Way)
    (route : Route) :
    (r.meet (.ask way route)).Sourced := by
  have hmet := r.met_ask way route
  generalize r.meet (.ask way route) = next at hmet ⊢
  cases hmet with
  | nothing => exact h
  | found _ _ => exact h
  | @detached _ source _ _ _ =>
      intro key current hcurrent
      obtain ⟨maker, b, hmaker, hb, hsource⟩ := h key current hcurrent
      exact ⟨maker, b, getElem?_push_of_some hmaker route, getElem?_add_of_some hb route source,
        hsource⟩
  | @installed source _ hnew =>
      intro key current hcurrent
      simp only [BalancerRegistry.install, Std.ExtTreeMap.getElem?_insert] at hcurrent
      split at hcurrent
      · cases hcurrent
        have hmaker : (r.makers.push route)[r.registry.balancers.size]? = some route :=
          hmade.size ▸ Array.getElem?_push_size
        exact ⟨route, _, hmaker, Array.getElem?_push_size, hnew⟩
      · obtain ⟨maker, b, hmaker, hb, hsource⟩ := h key current hcurrent
        exact ⟨maker, b, getElem?_push_of_some hmaker route, getElem?_add_of_some hb route source,
          hsource⟩

end BalancerRegistry.Roster

namespace Succession

open BalancerRegistry

/-- The directory was changed, and the load balancers of the former one are not forgotten yet. -/
def Lags (o : Succession) : Prop :=
  o.turn.head? = some .forgetBalancers

/-- What a request finds for a route that it was resolved to under a certain configuration. -/
structure SuppliedAs (own : Ticket) (o : Succession) (route : Route) : Prop where
  settings : ∃ c ∈ own.config.routes, route.CompiledFrom own.generation c
  ownSource :
    own.config.validate = .ok () →
    ∃ source, own.directory.sourceOf route = .ok source
  listed :
    route.serviceName = none →
    o.gateway.balancers.supply route = .ok (.listed route.downstreamHosts)
  leases :
    route.serviceName = none →
    route.downstreamHosts ≠ [] →
    ∀ s, ∃ l, (o.gateway.takeLease s route).2 = .ok l ∧ l.service ∈ route.downstreamHosts
  supplied :
    ¬ o.Lags →
    o.gateway.balancers.supply route = o.gateway.balancers.directory.sourceOf route
  own_iff :
    ¬ o.Lags →
    (o.gateway.balancers.supply route = own.directory.sourceOf route ↔
      route.serviceName = none ∨ own.directory = o.gateway.balancers.directory)
  lost_iff :
    ¬ o.Lags →
    ((∃ e, o.gateway.balancers.supply route = .error e) ↔
      route.serviceName ≠ none ∧ o.gateway.balancers.directory.registry = none)
  inForce :
    o.turn = [] →
    o.gateway.balancers.directory = .ofConfig o.gateway.config.global.serviceDiscovery
  refused :
    ∀ e s,
      o.gateway.balancers.supply route = .error e →
      (o.gateway.takeLease s route).2 = .error e

section Steps

variable {o o' : Succession}

theorem lags_or_sourced_make
    (h : o.Lags ∨ o.roster.Sourced)
    (harrives : o.Arrives)
    {c : Change}
    {rest : List Change}
    (hturn : o.turn = c :: rest) :
    (o.make c rest).Lags ∨ (o.make c rest).roster.Sourced := by
  obtain ⟨k, before, _, harriving⟩ := harrives
  have hsuffix := harriving.suffix
  unfold Lags at h
  rw [hturn] at h hsuffix
  have hsourced : c ≠ .forgetBalancers → o.roster.Sourced := fun hc =>
    h.resolve_left fun hhead => hc (Option.some.inj hhead)
  cases c with
  | directory d =>
      have hrest :
          d = k.directory ∧ rest = [.forgetBalancers, .forgetBreakers, .report k.table] := by
        simpa [Ticket.changes, List.suffix_cons_iff] using hsuffix
      exact .inl (congrArg List.head? hrest.2)
  | forgetBalancers => exact .inr (Roster.sourced_of_empty rfl)
  | _ => exact .inr (hsourced Change.noConfusion)

/-- Unless the directory was just changed, the load balancers have their sources by it. -/
theorem lags_or_sourced_of_met
    (h : o.Lags ∨ o.roster.Sourced)
    (harrives : o.Arrives)
    (hrecorded : o.Recorded)
    (hmet : Met o o') :
    o'.Lags ∨ o'.roster.Sourced := by
  cases hmet with
  | idle => exact h
  | refused => exact h
  | ready _ _ => exact h
  | @request e _ =>
      refine h.imp_right fun hsourced => ?_
      obtain ⟨asked, hmade, _⟩ := hrecorded.made
      show (o.roster.seek (o.traffic.seeks? e)).Sourced
      cases o.traffic.seeks? e with
      | none => exact hsourced
      | some route => exact hsourced.ask hmade .whole route
  | @calledUp i k hturn _ =>
      unfold Lags at h
      rw [hturn] at h
      exact .inr (h.resolve_left (Option.some_ne_none _).symm)
  | changed hturn => exact lags_or_sourced_make h harrives hturn

/-- Routes that were put in force are the same if their keys and numbers are. -/
theorem Ticketed.eq_of_served
    (h : o.Ticketed)
    {r r' : Route}
    (hr : o.Served r)
    (hr' : o.Served r')
    (hkey : r.key = r'.key)
    (hgeneration : r.generation = r'.generation) :
    r = r' := by
  obtain ⟨k, hk, hr⟩ := hr
  obtain ⟨k', hk', hr'⟩ := hr'
  have hcompiled := h.compiled_of_installed hk
  have hcompiled' := h.compiled_of_installed hk'
  rw [RouteTable.generation_of_mem_compile hcompiled hr,
    RouteTable.generation_of_mem_compile hcompiled' hr'] at hgeneration
  have hsame := h.eq_of_generation_eq (h.installed k hk) (h.installed k' hk') hgeneration
  exact RouteTable.eq_of_key_eq hcompiled hr (hsame ▸ hr') hkey

/-- The load balancer that a route finds was made for this route. -/
theorem Recorded.maker_eq
    (h : o.Recorded)
    (hticketed : o.Ticketed)
    {route : Route}
    (hserved : o.Served route)
    {current : RegisteredBalancer}
    (hcurrent : o.roster.registry.registered[route.key]? = some current)
    (hsame : current.generation = route.generation) :
    o.roster.makers[current.index]? = some route := by
  obtain ⟨asked, hmade, hasked⟩ := h.made
  obtain ⟨maker, hmaker, hkey, hgeneration⟩ := h.led.maker hcurrent
  obtain ⟨way, hway⟩ := hmade.asked maker (Array.mem_of_getElem? hmaker)
  have heq := hticketed.eq_of_served (hasked way maker hway) hserved hkey (hgeneration.trans hsame)
  exact heq ▸ hmaker

theorem Recorded.supply_seen (h : o.Recorded) (route : Route) :
    o.gateway.balancers.supply route = o.roster.registry.supply route := by
  rw [← h.seen, supply_outline]

/-- Listed backends are those of the route, whatever is in force. -/
theorem Recorded.supply_of_listed
    (h : o.Recorded)
    (hticketed : o.Ticketed)
    {route : Route}
    (hserved : o.Served route)
    (hlisted : route.serviceName = none) :
    o.gateway.balancers.supply route = .ok (.listed route.downstreamHosts) := by
  rw [h.supply_seen]
  refine supply_eq (fun current hcurrent hsame => ?_) (ServiceDirectory.sourceOf_listed hlisted _)
  obtain ⟨asked, hmade, _⟩ := h.made
  have hmaker := h.maker_eq hticketed hserved hcurrent hsame
  obtain ⟨b, hb, hfor⟩ := hmade.made _ route hmaker
  refine ⟨b, hb, ?_⟩
  rw [hfor.listed hlisted]
  rfl

/-- If all load balancers have their sources by the directory in force, so have all routes. -/
theorem Recorded.supply_of_sourced
    (h : o.Recorded)
    (hticketed : o.Ticketed)
    (hsourced : o.roster.Sourced)
    {route : Route}
    (hserved : o.Served route) :
    o.gateway.balancers.supply route = o.gateway.balancers.directory.sourceOf route := by
  have hdirectory : o.roster.registry.directory = o.gateway.balancers.directory :=
    (congrArg BalancerRegistry.directory h.seen).symm
  rw [h.supply_seen, ← hdirectory]
  refine supply_eq (fun current hcurrent hsame => ?_) rfl
  obtain ⟨maker, b, hmaker, hb, hsource⟩ := hsourced _ current hcurrent
  have heq : maker = route :=
    Option.some.inj (hmaker.symm.trans (h.maker_eq hticketed hserved hcurrent hsame))
  refine ⟨b, hb, ?_⟩
  rw [← heq, hsource, ServiceSource.origin_of_directory hsource]

end Steps

section Runs

variable {config : Config.Gateway}
variable {g : Gateway}

theorem lags_or_sourced_after
    (hg : Gateway.ofConfig config = .ok g)
    (events : List Event) :
    ((new g).after events).Lags ∨ ((new g).after events).roster.Sourced := by
  have hall := after_of_met (P := fun o => o.Arrives ∧ o.Recorded ∧ (o.Lags ∨ o.roster.Sourced))
    (fun _ _ h hmet =>
      ⟨h.1.of_met hmet, h.2.1.of_met h.1 hmet, lags_or_sourced_of_met h.2.2 h.1 h.2.1 hmet⟩)
    ⟨arrives_new hg, recorded_new hg, .inr (Roster.sourced_of_empty (registered_ofConfig hg))⟩
    events
  exact hall.2.2

/--
However configurations overlap each other and requests: each look-up is for a route of a table that
was put in force. If the route lists its backends, it is supplied from these, and gets one of them
on lease. Otherwise it is supplied from the registry of the directory in force, but for the moment
between two changes in which load balancers of the former one are left. So it is supplied as under
its own configuration if and only if it lists its backends or the two directories are the same; and
where the one in force has no registry, it is refused, although under its own configuration it
would not be.
-/
theorem supplied_as_in_force
    (hg : Gateway.ofConfig config = .ok g)
    (events : List Event)
    {e : Traffic.Event}
    {route : Route}
    (hseeks : ((new g).after events).traffic.seeks? e = some route) :
    ∃ own ∈ ((new g).after events).installed,
      route ∈ own.table.routes ∧
      SuppliedAs own ((new g).after events) route := by
  have hticketed := ticketed_after hg events
  have hrecorded := recorded_after hg events
  have hserved := hrecorded.served hseeks
  have hlisted := hrecorded.supply_of_listed hticketed hserved
  have hsupplied := fun hlags => hrecorded.supply_of_sourced hticketed
    ((lags_or_sourced_after hg events).resolve_left hlags) hserved
  obtain ⟨own, hown, hroute⟩ := hserved
  have hcompiled := hticketed.compiled_of_installed hown
  obtain ⟨c, hc, hcompile⟩ := RouteTable.exists_of_mem_compile hcompiled hroute
  refine ⟨own, hown, hroute, ⟨c, hc, Route.compiledFrom_of_compile hcompile⟩, ?_, hlisted, ?_,
    hsupplied, ?_, ?_, ?_, fun e s herror => Gateway.takeLease_of_supply_error herror s⟩
  · exact fun hvalid => RouteTable.exists_source_of_mem_compile hvalid hcompiled hroute
  · exact fun hname hsome s => Gateway.exists_lease_of_listed (hlisted hname) hsome s
  · intro hlags
    rw [hsupplied hlags, ServiceDirectory.sourceOf_eq_iff]
    exact or_congr_right eq_comm
  · intro hlags
    rw [hsupplied hlags, ServiceDirectory.sourceOf_error_iff]
  · exact fun hturn =>
      (consistent_of_turn_eq_nil hticketed (arrives_after hg events) hturn).directory

end Runs

section Dropping

/-- A configuration with one route, to the instances of a service. -/
def servedByInstances : Config.Gateway where
  global := { serviceDiscovery := some { address := "registry:8500" } }
  routes :=
    [{ upstreamPathTemplate := "/a"
       downstreamPathTemplate := "/a"
       serviceName := some "svc" }]

/--
A request comes to its lease; before it takes it, a configuration without a registry is put in
force.
-/
def dropping : List Event :=
  arrival 0 ++ upToLease 0 ++ reload (fun _ => .ok ()) (servedBy "one")

/--
The request would have been supplied from the registry of its own configuration, but it is refused,
and the caller is told of an error of the gateway.
-/
theorem supplied_as_in_force_dropping :
    ∃ g route, ∃ own ∈ ((new g).after dropping).installed,
      Gateway.ofConfig servedByInstances = .ok g ∧
      ((new g).after dropping).turn = [] ∧
      ((new g).after dropping).traffic.seeks? (passing 0) = some route ∧
      route ∈ own.table.routes ∧
      (∃ source, own.directory.sourceOf route = .ok source) ∧
      (∃ e, ∀ s, (((new g).after dropping).gateway.takeLease s route).2 = .error e) ∧
      (((new g).after (dropping ++ [.request (passing 0)])).traffic.runs.map fun r =>
        (r.bind (·.response?)).map (·.status)) = [some 500] := by
  have hvalid : servedByInstances.validate = .ok () := by
    have hchecked : servedByInstances.validate.toOption.map id = some () := by decide +kernel
    obtain ⟨_, h, _⟩ := exists_eq_ok_of_map hchecked
    exact h
  have hrun :
      ((Gateway.ofConfig servedByInstances).toOption.map fun g =>
        let o := (new g).after dropping
        (o.turn.isEmpty, o.gateway.config.global.serviceDiscovery,
          (o.traffic.seeks? (passing 0)).map (·.serviceName))) =
      some (true, none, some (some "svc")) := by
    decide +kernel
  have hstatus :
      ((Gateway.ofConfig servedByInstances).toOption.map fun g =>
        ((new g).after (dropping ++ [.request (passing 0)])).traffic.runs.map fun r =>
          (r.bind (·.response?)).map (·.status)) =
      some [some 500] := by
    decide +kernel
  obtain ⟨g, hg, hrun⟩ := exists_eq_ok_of_map hrun
  rw [hg] at hstatus
  simp only [Prod.mk.injEq] at hrun
  obtain ⟨hempty, hnone, hfound⟩ := hrun
  obtain ⟨route, hseeks, hname⟩ := Option.map_eq_some_iff.1 hfound
  have hturn := List.isEmpty_iff.1 hempty
  obtain ⟨own, hown, hroute, h⟩ := supplied_as_in_force hg dropping hseeks
  have hdrawn := (ticketed_after hg dropping).installed own hown
  have hsource := h.ownSource (valid_after hg hvalid dropping own hdrawn)
  have hlags : ¬ ((new g).after dropping).Lags := by
    unfold Lags
    rw [hturn]
    exact nofun
  have hregistry : ((new g).after dropping).gateway.balancers.directory.registry = none := by
    rw [h.inForce hturn, hnone]
    rfl
  obtain ⟨e, herror⟩ := (h.lost_iff hlags).2 ⟨hname ▸ nofun, hregistry⟩
  exact ⟨g, route, own, hown, hg, hturn, hseeks, hroute, hsource,
    ⟨e, fun s => h.refused e s herror⟩, Option.some.inj hstatus⟩

end Dropping

end Succession
end ApiGateway
