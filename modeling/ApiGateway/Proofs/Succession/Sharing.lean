import ApiGateway.Proofs.Route.Services
import ApiGateway.Proofs.Succession.Record
import Mathlib.Data.List.Sort

/-!
# Whether requests share a load balancer

The number of a table is drawn when it is made, and not when it is put in force. So where the turns
of two configurations come in the other order than their numbers, a request of the table with the
greater number may still be on its way when the other table is in force. If it looks up its load
balancer then, this one is registered, and from then on each request of the table in force is told
of one that is its own and that nobody else finds.

Main statement: `shares_unless_overtaken`. It says when requests share, and that they do as long as
the turns come in the order of the numbers.
-/

namespace ApiGateway

namespace BalancerRegistry

/-- There is a load balancer that is not registered. -/
structure Hides (r : BalancerRegistry) (i : Nat) : Prop where
  made : i < r.balancers.size
  unregistered : ∀ (key : String) (current : RegisteredBalancer),
    r.registered[key]? = some current → current.index ≠ i

variable {r : BalancerRegistry}
variable {i : Nat}

theorem Hides.lt_size_push
    (h : r.Hides i)
    (b : Balancer) :
    i < (r.balancers.push b).size := by
  rw [Array.size_push]
  exact Nat.lt_succ_of_lt h.made

/-- Only new load balancers are registered. -/
theorem Hides.ask
    (h : r.Hides i)
    (way : Way)
    (route : Route) :
    (r.ask way route).1.Hides i := by
  have hasked := r.asked_ask way route
  generalize r.ask way route = result at hasked ⊢
  cases hasked with
  | nothing => exact h
  | found _ _ => exact h
  | detached _ _ _ => exact ⟨h.lt_size_push _, h.unregistered⟩
  | installed _ _ =>
      refine ⟨h.lt_size_push _, ?_⟩
      intro key current hcurrent
      simp only [install, Std.ExtTreeMap.getElem?_insert] at hcurrent
      split at hcurrent
      · cases hcurrent
        exact Nat.ne_of_gt h.made
      · exact h.unregistered key current hcurrent

theorem hides_of_outline (h : r.outline.Hides i) : r.Hides i :=
  ⟨size_outline r ▸ h.made, h.unregistered⟩

/-- What is hidden is not found. -/
theorem Hides.ne_of_get
    (h : r.Hides i)
    {route : Route}
    {r' : BalancerRegistry}
    {j : Nat}
    (hget : r.get route = .ok (r', j)) :
    j ≠ i := by
  have hentered := r.entered_get route
  rw [hget] at hentered
  cases hentered with
  | found hcurrent _ => exact h.unregistered _ _ hcurrent
  | detached _ _ _ => exact Nat.ne_of_gt h.made
  | installed _ _ => exact Nat.ne_of_gt h.made

end BalancerRegistry

namespace Succession

open BalancerRegistry

/--
Since load balancers were last forgotten, a request of a table with a greater number was told of one
under the key of a route.
-/
def Overtaken (o : Succession) (route : Route) : Prop :=
  ∃ a ∈ o.roster.told, a.route.key = route.key ∧ route.generation < a.route.generation

/-- The configurations got their turns in the order of their numbers. -/
def InOrder (o : Succession) : Prop :=
  o.installed.Pairwise fun k k' => k'.generation < k.generation

/-- A look-up leads to the load balancer that is registered, which its whole table shares. -/
structure Shared (o : Succession) (route : Route) (r : BalancerRegistry) (i : Nat) : Prop where
  registered : r.registered[route.key]? = some ⟨route.generation, i⟩
  same : ∀ a ∈ o.roster.told,
    a.route.key = route.key → a.route.generation = route.generation → a.index = i

/-- A look-up leads to a load balancer that was made for it and that is not registered. -/
structure Detached (o : Succession) (r : BalancerRegistry) (i : Nat) : Prop where
  fresh : i = o.gateway.balancers.balancers.size
  made : r.balancers.size = i + 1
  unregistered : r.registered = o.gateway.balancers.registered
  other : ∀ a ∈ o.roster.told, a.index ≠ i

/-- What a look-up comes to that succeeds. -/
structure LooksUp
    (o : Succession)
    (e : Traffic.Event)
    (route : Route)
    (r : BalancerRegistry)
    (i : Nat) : Prop where
  made : (o.request e).gateway.balancers.outline = r.outline
  told : (o.request e).roster.told = o.roster.told ++ [⟨route, i⟩]
  detached : o.Overtaken route → o.Detached r i
  alone :
    o.Overtaken route →
    ∀ later route' r' i',
      ((o.request e).after later).gateway.balancers.get route' = .ok (r', i') →
      i' ≠ i
  shared : ¬ o.Overtaken route → o.Shared route r i

/-- How requests share load balancers, and when they do not. -/
structure SharesUnlessOvertaken (config : Config.Gateway) (o : Succession) : Prop where
  drawn : o.drawn.Pairwise fun k k' => k.generation < k'.generation
  inOrder : o.InOrder ↔ o.installed.reverse.Sublist o.drawn
  lookUps : ∀ e route r i,
    o.traffic.seeks? e = some route →
    o.gateway.balancers.get route = .ok (r, i) →
    o.LooksUp e route r i
  overtaken : ∀ route,
    o.Overtaken route →
    ∃ k ∈ o.installed,
      route.generation < k.generation ∧
      ∃ route' ∈ k.table.routes, route'.key = route.key
  inForce : ∀ route,
    config.validate = .ok () →
    o.turn = [] →
    o.InOrder →
    route ∈ o.gateway.table.routes →
    ∃ r i, o.gateway.balancers.get route = .ok (r, i) ∧ o.Shared route r i

/-- The order of the turns is that of the numbers if it is the order in which these were drawn. -/
theorem Ticketed.inOrder_iff {o : Succession} (h : o.Ticketed) :
    o.InOrder ↔ o.installed.reverse.Sublist o.drawn := by
  constructor
  · intro hin
    have hascending : o.installed.reverse.Pairwise fun k k' => k.generation < k'.generation :=
      List.pairwise_reverse.2 hin
    have hnodup : o.installed.reverse.Nodup :=
      hascending.imp fun hlt heq => Nat.ne_of_lt hlt (congrArg Ticket.generation heq)
    have hdrawn : o.installed.reverse ⊆ o.drawn := fun k hk =>
      h.installed k (List.mem_reverse.1 hk)
    have : Std.Antisymm fun k k' : Ticket => k.generation < k'.generation :=
      ⟨fun _ _ hlt hgt => absurd hgt (Nat.lt_asymm hlt)⟩
    exact List.sublist_of_subperm_of_pairwise (List.subperm_of_subset hnodup hdrawn)
      hascending h.ascending
  · intro hsub
    exact List.pairwise_reverse.1 (h.ascending.sublist hsub)

section LookUp

variable {o : Succession}
variable {e : Traffic.Event}
variable {route : Route}
variable {r : BalancerRegistry}
variable {i : Nat}

/-- What is told at the gateway is told on record. -/
theorem Recorded.told_request
    (h : o.Recorded)
    (hseeks : o.traffic.seeks? e = some route)
    (hget : o.gateway.balancers.get route = .ok (r, i)) :
    (o.request e).roster.told = o.roster.told ++ [⟨route, i⟩] := by
  have hask : o.roster.registry.ask .whole route = (r.outline, some i) := by
    rw [← h.seen, ask_outline, ask, hget]
    rfl
  have hroster : (o.request e).roster = o.roster.meet (.ask .whole route) := by
    rw [Succession.request, hseeks]
    rfl
  rw [hroster, Roster.meet, Roster.tell, hask]
  rfl

/-- What is looked up at the gateway is seen there afterwards. -/
theorem outline_request
    (hseeks : o.traffic.seeks? e = some route)
    (hget : o.gateway.balancers.get route = .ok (r, i)) :
    (o.request e).gateway.balancers.outline = r.outline := by
  have hask : o.gateway.balancers.ask .whole route = (r, some i) := by
    rw [ask, hget]
    rfl
  show (o.traffic.meet e).gateway.balancers.outline = _
  rw [Traffic.outline_meet (Traffic.renews_of_seeks? hseeks), hseeks, sought, ask_outline]
  exact congrArg (fun asked => asked.1.outline) hask

/-- Who is told of a load balancer is told of one that there is. -/
theorem Recorded.index_lt
    (h : o.Recorded)
    {a : Answer}
    (ha : a ∈ o.roster.told) :
    a.index < o.gateway.balancers.balancers.size := by
  obtain ⟨asked, hmade, _⟩ := h.made
  obtain ⟨maker, hmaker, _⟩ := h.led.own a ha
  have hlt := (Array.getElem?_eq_some_iff.1 hmaker).1
  rw [hmade.size, ← h.seen, size_outline] at hlt
  exact hlt

theorem Recorded.registered_eq (h : o.Recorded) :
    o.roster.registry.registered = o.gateway.balancers.registered :=
  (congrArg BalancerRegistry.registered h.seen).symm

/-- Of the tables whose requests were told of a load balancer, the latest one has it registered. -/
theorem Recorded.latest
    (h : o.Recorded)
    {a : Answer}
    (ha : a ∈ o.roster.told) :
    ∃ current,
      o.gateway.balancers.registered[a.route.key]? = some current ∧
      a.route.generation ≤ current.generation ∧
      (a.route.generation = current.generation → a.index = current.index) :=
  h.registered_eq ▸ h.led.latest a ha

/-- What is registered is there. -/
theorem Recorded.registered_lt
    (h : o.Recorded)
    {key : String}
    {current : RegisteredBalancer}
    (hcurrent : o.gateway.balancers.registered[key]? = some current) :
    current.index < o.gateway.balancers.balancers.size := by
  obtain ⟨a, ha, hkey, hgeneration⟩ :=
    h.led.registered key current (h.registered_eq.symm ▸ hcurrent)
  obtain ⟨current', hcurrent', _, hindex⟩ := h.latest ha
  cases hcurrent.symm.trans (hkey ▸ hcurrent')
  exact hindex hgeneration ▸ h.index_lt ha

theorem Recorded.overtaken_iff (h : o.Recorded) :
    o.Overtaken route ↔
      ∃ current,
        o.gateway.balancers.registered[route.key]? = some current ∧
        route.generation < current.generation := by
  constructor
  · rintro ⟨a, ha, hkey, hlt⟩
    obtain ⟨current, hcurrent, hle, _⟩ := h.latest ha
    exact ⟨current, hkey ▸ hcurrent, Nat.lt_of_lt_of_le hlt hle⟩
  · rintro ⟨current, hcurrent, hlt⟩
    obtain ⟨a, ha, hkey, hgeneration⟩ :=
      h.led.registered _ current (h.registered_eq.symm ▸ hcurrent)
    exact ⟨a, ha, hkey, hgeneration ▸ hlt⟩

/-- The two ways in which a look-up goes that succeeds. -/
theorem Recorded.shared_or_detached
    (h : o.Recorded)
    (hget : o.gateway.balancers.get route = .ok (r, i)) :
    (o.Overtaken route → o.Detached r i) ∧ (¬ o.Overtaken route → o.Shared route r i) := by
  have hentered := o.gateway.balancers.entered_get route
  rw [hget] at hentered
  rw [h.overtaken_iff]
  cases hentered with
  | @found current hcurrent hsame =>
      constructor
      · rintro ⟨current', hcurrent', hlt⟩
        cases hcurrent.symm.trans hcurrent'
        exact absurd hlt (Nat.not_lt.2 (Nat.le_of_eq hsame))
      · refine fun _ => ⟨hsame ▸ hcurrent, fun a ha hkey hgeneration => ?_⟩
        obtain ⟨current', hcurrent', _, hindex⟩ := h.latest ha
        rw [hkey, hcurrent] at hcurrent'
        cases hcurrent'
        exact hindex (hgeneration.trans hsame.symm)
  | @detached current source hcurrent holder hsource =>
      constructor
      · exact fun _ => ⟨rfl, Array.size_push _, rfl, fun a ha => Nat.ne_of_lt (h.index_lt ha)⟩
      · exact fun hnot => absurd ⟨current, hcurrent, holder⟩ hnot
  | @installed source hnewer hsource =>
      constructor
      · rintro ⟨current, hcurrent, hlt⟩
        exact absurd (hnewer current hcurrent) (Nat.lt_asymm hlt)
      · refine fun _ => ⟨Std.ExtTreeMap.getElem?_insert_self, fun a ha hkey hgeneration => ?_⟩
        obtain ⟨current, hcurrent, hle, _⟩ := h.latest ha
        have hlt := hnewer current (hkey ▸ hcurrent)
        omega

/-- Whom a look-up was overtaken by holds a route of another table that was put in force. -/
theorem Recorded.of_overtaken
    (h : o.Recorded)
    (hticketed : o.Ticketed)
    (hovertaken : o.Overtaken route) :
    ∃ k ∈ o.installed,
      route.generation < k.generation ∧
      ∃ route' ∈ k.table.routes, route'.key = route.key := by
  obtain ⟨a, ha, hkey, hlt⟩ := hovertaken
  obtain ⟨k, hk, hroute⟩ := h.told a ha
  have hcompiled := hticketed.compiled_of_installed hk
  rw [RouteTable.generation_of_mem_compile hcompiled hroute] at hlt
  exact ⟨k, hk, hlt, a.route, hroute, hkey⟩

/-- If the turns came in the order of the numbers, nobody has overtaken a route in force. -/
theorem Recorded.not_overtaken
    (h : o.Recorded)
    (hticketed : o.Ticketed)
    {k : Ticket}
    {before : List Ticket}
    (hinstalled : o.installed = k :: before)
    (hin : o.InOrder)
    (hroute : route ∈ k.table.routes) :
    ¬ o.Overtaken route := by
  intro hovertaken
  obtain ⟨k', hk', hlt, _⟩ := h.of_overtaken hticketed hovertaken
  have hcompiled := hticketed.compiled_of_installed (hinstalled ▸ List.mem_cons_self)
  rw [RouteTable.generation_of_mem_compile hcompiled hroute] at hlt
  unfold InOrder at hin
  rw [hinstalled] at hin hk'
  rcases List.mem_cons.1 hk' with rfl | hbefore
  · exact Nat.lt_irrefl _ hlt
  · exact Nat.lt_asymm hlt (List.rel_of_pairwise_cons hin hbefore)

/-- A route whose services the directory knows where to find gets a load balancer. -/
theorem exists_get_of_source
    {source : ServiceSource}
    (hsource : o.gateway.balancers.directory.sourceOf route = .ok source) :
    ∃ r i, o.gateway.balancers.get route = .ok (r, i) := by
  have hentered := o.gateway.balancers.entered_get route
  generalize o.gateway.balancers.get route = result at hentered ⊢
  cases hentered with
  | failed _ herror => exact nomatch hsource.symm.trans herror
  | _ => exact ⟨_, _, rfl⟩

end LookUp

section Hidden

variable {o o' : Succession}
variable {i : Nat}

/-- What is hidden stays so, whatever happens. -/
theorem hides_of_met
    (h : o.gateway.balancers.outline.Hides i)
    (hmet : Met o o') :
    o'.gateway.balancers.outline.Hides i := by
  cases hmet with
  | @request e he =>
      have hsought : (o.request e).gateway.balancers.outline =
          o.gateway.balancers.outline.sought (o.traffic.seeks? e) :=
        Traffic.outline_meet he
      rw [hsought]
      cases o.traffic.seeks? e with
      | none => exact h
      | some route => exact h.ask .whole route
  | @changed c rest _ =>
      cases c with
      | forgetBalancers => exact ⟨h.made, fun _ _ hcurrent => by cases hcurrent⟩
      | directory d => exact ⟨h.made, h.unregistered⟩
      | _ => exact h
  | _ => exact h

/-- A load balancer that was made for a look-up and is not registered is hidden from all others. -/
theorem Recorded.hides_of_detached
    (h : o.Recorded)
    {r : BalancerRegistry}
    (hdetached : o.Detached r i) :
    r.outline.Hides i := by
  constructor
  · rw [size_outline, hdetached.made]
    exact Nat.lt_succ_self i
  · intro key current hcurrent
    have hbefore : o.gateway.balancers.registered[key]? = some current :=
      hdetached.unregistered ▸ hcurrent
    exact hdetached.fresh ▸ Nat.ne_of_lt (h.registered_lt hbefore)

end Hidden

section Runs

variable {config : Config.Gateway}
variable {g : Gateway}

/-- What is in force as a whole has a load balancer to share for each of its routes. -/
theorem shared_inForce
    {o : Succession}
    (hticketed : o.Ticketed)
    (harrives : o.Arrives)
    (hrecorded : o.Recorded)
    (hvalid : ∀ k ∈ o.drawn, k.config.validate = .ok ())
    (hturn : o.turn = [])
    (hin : o.InOrder)
    {route : Route}
    (hroute : route ∈ o.gateway.table.routes) :
    ∃ r i, o.gateway.balancers.get route = .ok (r, i) ∧ o.Shared route r i := by
  obtain ⟨k, before, hinstalled, hinForce⟩ := harrives.inForce hturn
  have hk : k ∈ o.installed := hinstalled ▸ List.mem_cons_self
  rw [hinForce.table] at hroute
  obtain ⟨source, hsource⟩ := RouteTable.exists_source_of_mem_compile
    (hvalid k (hticketed.installed k hk)) (hticketed.compiled_of_installed hk) hroute
  have hfound : k.directory.sourceOf route = .ok source := hsource
  obtain ⟨r, i, hget⟩ := exists_get_of_source (hinForce.directory.symm ▸ hfound)
  exact ⟨r, i, hget, (hrecorded.shared_or_detached hget).2
    (hrecorded.not_overtaken hticketed hinstalled hin hroute)⟩

/--
However configurations overlap: the numbers of tables ascend as they are drawn, and the turns come
in this order or not. A look-up leads to the load balancer that its table shares, unless a table
with a greater number, which was in force as well, has overtaken it on its key; then it leads to one
that nobody else will ever find. If the turns come in the order of the numbers, then whenever no
configuration is being put in force there is one load balancer to share for each route in force.
-/
theorem shares_unless_overtaken
    (hg : Gateway.ofConfig config = .ok g)
    (events : List Event) :
    SharesUnlessOvertaken config ((new g).after events) := by
  have hticketed := ticketed_after hg events
  have hrecorded := recorded_after hg events
  refine ⟨hticketed.ascending, hticketed.inOrder_iff, ?_, ?_, ?_⟩
  · intro e route r i hseeks hget
    have hways := hrecorded.shared_or_detached hget
    have hmade := outline_request hseeks hget
    refine ⟨hmade, hrecorded.told_request hseeks hget, hways.1, ?_, hways.2⟩
    intro hovertaken later route' r' j hget'
    have hhides := hrecorded.hides_of_detached (hways.1 hovertaken)
    rw [← hmade] at hhides
    have hlater := after_of_met (P := fun o => o.gateway.balancers.outline.Hides i)
      (fun _ _ => hides_of_met) hhides later
    exact (hides_of_outline hlater).ne_of_get hget'
  · exact fun route => hrecorded.of_overtaken hticketed
  · intro route hvalid hturn hin hroute
    exact shared_inForce hticketed (arrives_after hg events) hrecorded
      (valid_after hg hvalid events) hturn hin hroute

end Runs

section Straggler

/--
The table with the greater number was put in force first, and a request of it is late: it looks up
its load balancer when the other table is in force. Two requests of this one follow.
-/
def straggling : List Event :=
  overlapping ++ upToLease 0 ++ [.request (passing 0)]
    ++ arrival 1 ++ upToLease 1 ++ arrival 2 ++ upToLease 2

/-- Both requests of the table in force get load balancers that nobody else will find. -/
theorem shares_unless_overtaken_straggling :
    ∃ g route r,
      Gateway.ofConfig (servedBy "zero") = .ok g ∧
      ((new g).after straggling).turn = [] ∧
      ((new g).after straggling).gateway.table.routes.map (·.generation) = [1] ∧
      ((new g).after straggling).traffic.seeks? (passing 1) = some route ∧
      ((new g).after straggling).gateway.balancers.get route = .ok (r, 1) ∧
      ((new g).after straggling).Overtaken route ∧
      ((new g).after straggling).Detached r 1 ∧
      (((new g).after (straggling ++ [.request (passing 1), .request (passing 2)])).roster.told.map
        fun a => (a.route.generation, a.index)) = [(2, 0), (1, 1), (1, 2)] := by
  have hrun :
      ((Gateway.ofConfig (servedBy "zero")).toOption.map fun g =>
        let o := (new g).after straggling
        ((o.turn.isEmpty, o.gateway.table.routes.map (·.generation)),
          o.roster.told.map (fun a => (a.route.key, a.route.generation)),
          (o.traffic.seeks? (passing 1)).bind fun route =>
            (o.gateway.balancers.get route).toOption.map fun found =>
              (route.key, route.generation, found.2))) =
      some ((true, [1]), [("*|/a", 2)], some ("*|/a", 1, 1)) := by
    decide +kernel
  have htold :
      ((Gateway.ofConfig (servedBy "zero")).toOption.map fun g =>
        ((new g).after (straggling ++ [.request (passing 1), .request (passing 2)])).roster.told.map
          fun a => (a.route.generation, a.index)) =
      some [(2, 0), (1, 1), (1, 2)] := by
    decide +kernel
  obtain ⟨g, hg, hrun⟩ := exists_eq_ok_of_map hrun
  rw [hg] at htold
  simp only [Prod.mk.injEq] at hrun
  obtain ⟨⟨hempty, hgeneration⟩, hearlier, hfound⟩ := hrun
  obtain ⟨route, hseeks, hfound⟩ := Option.bind_eq_some_iff.1 hfound
  obtain ⟨⟨r, i⟩, hget, hfound⟩ := exists_eq_ok_of_map hfound
  simp only [Prod.mk.injEq] at hfound
  obtain ⟨hkey, hnumber, rfl⟩ := hfound
  have hovertaken : ((new g).after straggling).Overtaken route := by
    obtain ⟨a, ha, hsame⟩ := List.mem_map.1 (hearlier.symm ▸ List.mem_singleton_self _)
    obtain ⟨hakey, hanumber⟩ := Prod.mk.inj hsame
    exact ⟨a, ha, hakey.trans hkey.symm, by omega⟩
  have hlookUps := (shares_unless_overtaken hg straggling).lookUps
  have hdetached := (hlookUps (passing 1) route r 1 hseeks hget).detached hovertaken
  exact ⟨g, route, r, hg, List.isEmpty_iff.1 hempty, hgeneration, hseeks, hget, hovertaken,
    hdetached, Option.some.inj htold⟩

end Straggler

end Succession
end ApiGateway
