import ApiGateway.Proofs.Succession.Tickets

/-!
# The record of look-ups

The roster of a succession keeps the load balancers in outline, whom they were made for, and what
was told since they were last forgotten. It follows the gateway through requests and changes, and
every route in it is one of a table that was put in force.
-/

namespace ApiGateway
namespace Succession

open BalancerRegistry

/-- A route is one of a table that was put in force. -/
def Served (o : Succession) (route : Route) : Prop :=
  ∃ k ∈ o.installed, route ∈ k.table.routes

/-- What is on record is what has happened at the gateway. -/
structure Recorded (o : Succession) : Prop where
  vouched : o.traffic.Vouched
  seen : o.gateway.balancers.outline = o.roster.registry
  table : ∃ k ∈ o.installed, o.gateway.table = k.table
  known : ∀ route, o.traffic.Knows route → o.Served route
  made : ∃ asked, Roster.Made asked o.roster ∧ ∀ way route, .ask way route ∈ asked → o.Served route
  led : o.roster.Led
  told : ∀ a ∈ o.roster.told, o.Served a.route

section Steps

variable {o o' : Succession}

theorem Served.callUp
    {route : Route}
    (h : o.Served route)
    (i : Nat)
    (k : Ticket) :
    (o.callUp i k).Served route := by
  obtain ⟨k', hk', hroute⟩ := h
  exact ⟨k', List.mem_cons_of_mem k hk', hroute⟩

/-- The route of a look-up is one of a table that was put in force. -/
theorem Recorded.served
    (h : o.Recorded)
    {e : Traffic.Event}
    {route : Route}
    (hseeks : o.traffic.seeks? e = some route) :
    o.Served route :=
  h.known route (Traffic.knows_of_seeks? hseeks)

/-- Events of the requests put nothing in force. -/
theorem installed_request (o : Succession) (e : Traffic.Event) :
    (o.request e).installed = o.installed :=
  rfl

theorem served_request
    {e : Traffic.Event}
    {route : Route} :
    (o.request e).Served route ↔ o.Served route := by
  unfold Served
  rw [installed_request]

/-- The roster follows a look-up. -/
theorem registry_seek (r : Roster) (sought : Option Route) :
    (r.seek sought).registry = r.registry.sought sought := by
  cases sought <;> rfl

/-- What is on record of the load balancers when a route of a table is sought, or none is. -/
theorem Recorded.seek
    (h : o.Recorded)
    {sought : Option Route}
    (hserved : ∀ route, sought = some route → o.Served route) :
    (∃ asked, Roster.Made asked (o.roster.seek sought) ∧
      ∀ way route, .ask way route ∈ asked → o.Served route) ∧
    (o.roster.seek sought).Led ∧
    ∀ a ∈ (o.roster.seek sought).told, o.Served a.route := by
  obtain ⟨asked, hmade, hasked⟩ := h.made
  cases sought with
  | none => exact ⟨⟨asked, hmade, hasked⟩, h.led, h.told⟩
  | some route =>
      have hroute := hserved route rfl
      refine ⟨⟨_, hmade.meet (.ask .whole route), fun way route' hmem => ?_⟩,
        h.led.meet hmade (.ask .whole route), fun a ha => ?_⟩
      · rcases List.mem_append.1 hmem with hmem | hmem
        · exact hasked way route' hmem
        · cases List.mem_singleton.1 hmem
          exact hroute
      · rcases List.mem_append.1 ha with ha | ha
        · exact h.told a ha
        · obtain ⟨i, _, rfl⟩ := Option.map_eq_some_iff.1 (Option.mem_toList.1 ha)
          exact hroute

theorem Recorded.request
    (h : o.Recorded)
    {e : Traffic.Event}
    (he : e.renews = false) :
    (o.request e).Recorded := by
  have hroster : (o.request e).roster = o.roster.seek (o.traffic.seeks? e) := rfl
  have htable : (o.request e).gateway.table = o.gateway.table :=
    congrArg Gateway.Setup.table (setup_request he)
  obtain ⟨hmade, hled, htold⟩ := h.seek fun route hseeks => h.served hseeks
  constructor
  · exact h.vouched.meet e
  · rw [hroster, registry_seek, ← h.seen]
    exact Traffic.outline_meet he
  · rw [htable, installed_request]
    exact h.table
  · intro route hroute
    rw [served_request]
    rcases Traffic.knows_of_meet h.vouched hroute with hold | hnew
    · exact h.known route hold
    · obtain ⟨k, hk, hsame⟩ := h.table
      exact ⟨k, hk, hsame ▸ hnew⟩
  · simp only [served_request, hroster]
    exact hmade
  · rw [hroster]
    exact hled
  · simp only [served_request, hroster]
    exact htold

theorem Recorded.callUp
    (h : o.Recorded)
    (i : Nat)
    (k : Ticket) :
    (o.callUp i k).Recorded := by
  obtain ⟨k', hk', htable⟩ := h.table
  obtain ⟨asked, hmade, hserved⟩ := h.made
  exact ⟨h.vouched, h.seen, ⟨k', List.mem_cons_of_mem k hk', htable⟩,
    fun route hroute => (h.known route hroute).callUp i k,
    ⟨asked, hmade, fun way route hmem => (hserved way route hmem).callUp i k⟩,
    h.led, fun a ha => (h.told a ha).callUp i k⟩

theorem Recorded.make
    (h : o.Recorded)
    (harrives : o.Arrives)
    {c : Change}
    {rest : List Change}
    (hturn : o.turn = c :: rest) :
    (o.make c rest).Recorded := by
  obtain ⟨asked, hmade, hserved⟩ := h.made
  cases c with
  | table t =>
      obtain ⟨k, before, hinstalled, harriving⟩ := harrives
      have hmem : Change.table t ∈ k.changes :=
        harriving.suffix.subset (hturn ▸ List.mem_cons_self)
      have ht : t = k.table := by
        simpa [Ticket.changes] using hmem
      exact ⟨h.vouched, h.seen, ⟨k, hinstalled ▸ List.mem_cons_self, ht⟩, h.known, h.made, h.led,
        h.told⟩
  | directory d =>
      exact ⟨h.vouched, congrArg (fun r => { r with directory := d }) h.seen, h.table, h.known,
        ⟨asked, ⟨hmade.size, hmade.made, hmade.asked⟩, hserved⟩,
        ⟨h.led.own, h.led.latest, h.led.registered⟩, h.told⟩
  | forgetBalancers =>
      refine ⟨h.vouched, congrArg BalancerRegistry.clear h.seen, h.table, h.known,
        ⟨_, hmade.meet .clear, fun way route hmem => ?_⟩, h.led.meet hmade .clear,
        fun _ ha => absurd ha List.not_mem_nil⟩
      rcases List.mem_append.1 hmem with hmem | hmem
      · exact hserved way route hmem
      · cases List.mem_singleton.1 hmem
  | _ => exact ⟨h.vouched, h.seen, h.table, h.known, h.made, h.led, h.told⟩

theorem Recorded.of_met
    (h : o.Recorded)
    (harrives : o.Arrives)
    (hmet : Met o o') :
    o'.Recorded := by
  cases hmet with
  | idle => exact h
  | request he => exact h.request he
  | refused => exact ⟨h.vouched, h.seen, h.table, h.known, h.made, h.led, h.told⟩
  | ready _ _ => exact ⟨h.vouched, h.seen, h.table, h.known, h.made, h.led, h.told⟩
  | calledUp _ _ => exact h.callUp _ _
  | changed hturn => exact h.make harrives hturn

end Steps

section Runs

variable {config : Config.Gateway}
variable {g : Gateway}

theorem registered_ofConfig (hg : Gateway.ofConfig config = .ok g) :
    g.balancers.registered = ∅ := by
  obtain ⟨table, _, hg⟩ := bind_eq_ok.1 hg
  cases hg
  rfl

theorem made_new
    {r : BalancerRegistry}
    (h : r.balancers = #[]) :
    Roster.Made [] { registry := r } where
  size := by rw [h]; rfl
  made i maker hi := by simp at hi
  asked maker hmaker := by simp at hmaker

theorem recorded_new (hg : Gateway.ofConfig config = .ok g) : (new g).Recorded where
  vouched := Traffic.vouched_new g
  seen := BalancerRegistry.outline_of_empty (Gateway.balancers_ofConfig hg)
  table := ⟨first g, List.mem_cons_self, rfl⟩
  known _ h := absurd h (Traffic.not_knows_new g)
  made := ⟨[], made_new (Gateway.balancers_ofConfig hg), fun _ _ h => absurd h List.not_mem_nil⟩
  led := .none (registered_ofConfig hg) rfl
  told _ h := absurd h List.not_mem_nil

theorem recorded_after
    (hg : Gateway.ofConfig config = .ok g)
    (events : List Event) :
    ((new g).after events).Recorded := by
  have hboth := after_of_met (P := fun o => o.Arrives ∧ o.Recorded)
    (fun _ _ h hmet => ⟨h.1.of_met hmet, h.2.of_met h.1 hmet⟩)
    ⟨arrives_new hg, recorded_new hg⟩ events
  exact hboth.2

end Runs

end Succession
end ApiGateway
