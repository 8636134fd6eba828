import ApiGateway.Proofs.Succession.Basic

/-!
# The numbers of tables, and which one is in force

Every configuration that waits, or was put in force, has its table from compilation under the number
that it drew, and numbers are drawn in ascending order; nothing is said about the order in which
configurations get their turn. The parts of the configuration whose turn it is are in force, or are
among the changes that are left.
-/

namespace ApiGateway

/-- To look up a load balancer does not change where services are found. -/
theorem BalancerRegistry.directory_sought (b : BalancerRegistry) (sought : Option Route) :
    (b.sought sought).directory = b.directory := by
  cases sought with
  | none => rfl
  | some route =>
      have hasked := b.asked_ask .whole route
      rw [sought]
      generalize b.ask .whole route = result at hasked ⊢
      cases hasked <;> rfl

/-- Events of the requests leave the directory as it is. -/
theorem Traffic.directory_meet
    {t : Traffic}
    {e : Traffic.Event}
    (he : e.renews = false) :
    (t.meet e).gateway.balancers.directory = t.gateway.balancers.directory :=
  calc (t.meet e).gateway.balancers.directory
    _ = (t.meet e).gateway.balancers.outline.directory := rfl
    _ = (t.gateway.balancers.outline.sought (t.seeks? e)).directory :=
      congrArg BalancerRegistry.directory (outline_meet he)
    _ = t.gateway.balancers.directory := BalancerRegistry.directory_sought _ _

namespace Succession

/-- Where the configurations that wait and those that were put in force come from. -/
structure Ticketed (o : Succession) : Prop where
  compiled : ∀ k ∈ o.drawn, RouteTable.compile k.generation k.config = .ok k.table
  ascending : o.drawn.Pairwise fun k k' => k.generation < k'.generation
  next : ∀ k ∈ o.drawn, k.generation < o.gateway.nextGeneration
  waiting : ∀ k ∈ o.waiting, k ∈ o.drawn
  installed : ∀ k ∈ o.installed, k ∈ o.drawn

/-- Every part of a configuration is in force, or is among the changes that are left. -/
structure Arriving (k : Ticket) (left : List Change) (g : Gateway) : Prop where
  suffix : left <:+ k.changes
  table : g.table = k.table ∨ Change.table k.table ∈ left
  config : g.config = k.config ∨ Change.config k.config ∈ left
  directory : g.balancers.directory = k.directory ∨ Change.directory k.directory ∈ left

/-- A configuration is in force with all its parts. -/
structure InForce (k : Ticket) (g : Gateway) : Prop where
  table : g.table = k.table
  config : g.config = k.config
  directory : g.balancers.directory = k.directory

/-- When no change is left, the configuration is in force. -/
theorem Arriving.inForce
    {k : Ticket}
    {g : Gateway}
    (h : Arriving k [] g) :
    InForce k g where
  table := h.table.resolve_right List.not_mem_nil
  config := h.config.resolve_right List.not_mem_nil
  directory := h.directory.resolve_right List.not_mem_nil

section Steps

variable {o o' : Succession}

theorem setup_request
    {e : Traffic.Event}
    (he : e.renews = false) :
    (o.request e).gateway.setup = o.gateway.setup :=
  Traffic.setup_meet he

/-- A change leaves the number of the next table as it is. -/
theorem nextGeneration_make (g : Gateway) (c : Change) :
    (c.make g).nextGeneration = g.nextGeneration := by
  cases c <;> rfl

/-- The table of a configuration that was put in force was made from it. -/
theorem Ticketed.compiled_of_installed
    (h : o.Ticketed)
    {k : Ticket}
    (hk : k ∈ o.installed) :
    RouteTable.compile k.generation k.config = .ok k.table :=
  h.compiled k (h.installed k hk)

/-- Tables of the same number are the same. -/
theorem Ticketed.eq_of_generation_eq
    (h : o.Ticketed)
    {k k' : Ticket}
    (hk : k ∈ o.drawn)
    (hk' : k' ∈ o.drawn)
    (hsame : k.generation = k'.generation) :
    k = k' :=
  List.inj_on_of_nodup_map (List.pairwise_map.2 (h.ascending.imp Nat.ne_of_lt)) hk hk' hsame

/-- A new table has a number that no other one has. -/
theorem Ticketed.await
    (h : o.Ticketed)
    {c : Config.Gateway}
    {table : RouteTable}
    (htable : RouteTable.compile o.gateway.nextGeneration c = .ok table) :
    (o.await ⟨⟨c, table⟩, o.gateway.nextGeneration⟩).Ticketed := by
  constructor
  · intro k hk
    rcases List.mem_append.1 hk with hk | hk
    · exact h.compiled k hk
    · rw [List.mem_singleton.1 hk]
      exact htable
  · refine List.pairwise_append.2 ⟨h.ascending, List.pairwise_singleton .., ?_⟩
    intro k hk k' hk'
    rw [List.mem_singleton.1 hk']
    exact h.next k hk
  · intro k hk
    rcases List.mem_append.1 hk with hk | hk
    · exact Nat.lt_succ_of_lt (h.next k hk)
    · rw [List.mem_singleton.1 hk]
      exact Nat.lt_succ_self _
  · intro k hk
    rcases List.mem_append.1 hk with hk | hk
    · exact List.mem_append_left _ (h.waiting k hk)
    · exact List.mem_append_right _ hk
  · exact fun k hk => List.mem_append_left _ (h.installed k hk)

theorem Ticketed.of_met
    (h : o.Ticketed)
    (hmet : Met o o') :
    o'.Ticketed := by
  cases hmet with
  | idle => exact h
  | @request e he =>
      have hnext : (o.request e).gateway.nextGeneration = o.gateway.nextGeneration :=
        congrArg Gateway.Setup.nextGeneration (setup_request he)
      exact ⟨h.compiled, h.ascending, fun k hk => hnext ▸ h.next k hk, h.waiting, h.installed⟩
  | refused =>
      exact ⟨h.compiled, h.ascending, fun k hk => Nat.lt_succ_of_lt (h.next k hk), h.waiting,
        h.installed⟩
  | ready _ htable => exact h.await htable
  | calledUp _ hk =>
      refine ⟨h.compiled, h.ascending, h.next,
        fun k' hk' => h.waiting k' (List.mem_of_mem_eraseIdx hk'), ?_⟩
      exact List.forall_mem_cons.2 ⟨h.waiting _ hk, h.installed⟩
  | @changed c rest _ =>
      exact ⟨h.compiled, h.ascending,
        fun k hk => (nextGeneration_make o.gateway c).symm ▸ h.next k hk, h.waiting, h.installed⟩

/-- When a part was put in force, it is not among the changes that are left any more. -/
theorem Arriving.make
    {k : Ticket}
    {c : Change}
    {rest : List Change}
    {g : Gateway}
    (h : Arriving k (c :: rest) g) :
    Arriving k rest (c.make g) := by
  have hrest := (List.suffix_cons c rest).trans h.suffix
  have hc : c ∈ k.changes := h.suffix.subset List.mem_cons_self
  have htable := h.table
  have hconfig := h.config
  have hdirectory := h.directory
  simp only [Ticket.changes, List.mem_cons, List.not_mem_nil, or_false] at hc
  rcases hc with rfl | rfl | rfl | rfl | rfl | rfl <;>
    simp only [List.mem_cons, reduceCtorEq, false_or] at htable hconfig hdirectory
  · exact ⟨hrest, .inl rfl, hconfig, hdirectory⟩
  · exact ⟨hrest, htable, .inl rfl, hdirectory⟩
  · exact ⟨hrest, htable, hconfig, .inl rfl⟩
  all_goals exact ⟨hrest, htable, hconfig, hdirectory⟩

/-- The configuration whose turn it was last is in force, or it still is its turn. -/
def Arrives (o : Succession) : Prop :=
  ∃ k before, o.installed = k :: before ∧ Arriving k o.turn o.gateway

/-- While no configuration is being put in force, the latest one is in force. -/
theorem Arrives.inForce
    (h : o.Arrives)
    (hturn : o.turn = []) :
    ∃ k before, o.installed = k :: before ∧ InForce k o.gateway := by
  obtain ⟨k, before, hinstalled, harriving⟩ := h
  rw [hturn] at harriving
  exact ⟨k, before, hinstalled, harriving.inForce⟩

theorem Arrives.of_met
    (h : o.Arrives)
    (hmet : Met o o') :
    o'.Arrives := by
  obtain ⟨k, before, hinstalled, harriving⟩ := h
  cases hmet with
  | idle => exact ⟨k, before, hinstalled, harriving⟩
  | @request e he =>
      have hsetup := setup_request (o := o) he
      have htable : (o.request e).gateway.table = o.gateway.table :=
        congrArg Gateway.Setup.table hsetup
      have hconfig : (o.request e).gateway.config = o.gateway.config :=
        congrArg Gateway.Setup.config hsetup
      have hdirectory : (o.request e).gateway.balancers.directory = o.gateway.balancers.directory :=
        Traffic.directory_meet he
      refine ⟨k, before, hinstalled, harriving.suffix, ?_, ?_, ?_⟩
      · rw [htable]
        exact harriving.table
      · rw [hconfig]
        exact harriving.config
      · rw [hdirectory]
        exact harriving.directory
  | refused =>
      exact ⟨k, before, hinstalled, harriving.suffix, harriving.table, harriving.config,
        harriving.directory⟩
  | ready _ _ =>
      exact ⟨k, before, hinstalled, harriving.suffix, harriving.table, harriving.config,
        harriving.directory⟩
  | @calledUp i k' _ hk' =>
      refine ⟨k', o.installed, rfl, List.suffix_refl _, .inr ?_, .inr ?_, .inr ?_⟩ <;>
        simp [callUp, Ticket.changes]
  | @changed c rest hturn =>
      rw [hturn] at harriving
      exact ⟨k, before, hinstalled, harriving.make⟩

end Steps

section Runs

variable {config : Config.Gateway}
variable {g : Gateway}

theorem ticketed_new (hg : Gateway.ofConfig config = .ok g) : (new g).Ticketed := by
  obtain ⟨table, htable, hg⟩ := bind_eq_ok.1 hg
  cases hg
  refine ⟨?_, List.pairwise_singleton .., ?_, nofun, fun _ => id⟩
  · intro k hk
    rw [List.mem_singleton.1 hk]
    exact htable
  · intro k hk
    rw [List.mem_singleton.1 hk]
    exact Nat.zero_lt_one

theorem arrives_new (hg : Gateway.ofConfig config = .ok g) : (new g).Arrives := by
  obtain ⟨table, htable, hg⟩ := bind_eq_ok.1 hg
  cases hg
  exact ⟨_, [], rfl, List.nil_suffix, .inl rfl, .inl rfl, .inl rfl⟩

theorem ticketed_after
    (hg : Gateway.ofConfig config = .ok g)
    (events : List Event) :
    ((new g).after events).Ticketed :=
  after_of_met (fun _ _ h => h.of_met) (ticketed_new hg) events

/-- If the first configuration is valid, all others are, too. -/
theorem valid_after
    (hg : Gateway.ofConfig config = .ok g)
    (hvalid : config.validate = .ok ())
    (events : List Event) :
    ∀ k ∈ ((new g).after events).drawn, k.config.validate = .ok () := by
  refine after_of_met (P := fun o => ∀ k ∈ o.drawn, k.config.validate = .ok ()) ?_ ?_ events
  · intro o o' h hmet
    cases hmet with
    | ready hnew _ => exact List.forall_mem_append.2 ⟨h, List.forall_mem_singleton.2 hnew⟩
    | _ => exact h
  · obtain ⟨table, _, hg⟩ := bind_eq_ok.1 hg
    cases hg
    exact List.forall_mem_singleton.2 hvalid

theorem arrives_after
    (hg : Gateway.ofConfig config = .ok g)
    (events : List Event) :
    ((new g).after events).Arrives :=
  after_of_met (fun _ _ h => h.of_met) (arrives_new hg) events

end Runs

end Succession
end ApiGateway
