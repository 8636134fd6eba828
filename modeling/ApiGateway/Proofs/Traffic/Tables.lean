import ApiGateway.Proofs.Traffic.Breakers
import ApiGateway.Proofs.Traffic.Runs

/-!
# Tables in traffic

What holds of the first table and of every table that is put in force later holds of the table in
force at any time; and the route of a request was found in one of these tables, as its method and
its path ask for.

Main statement: `exists_table_of_resolved`.
-/

namespace ApiGateway

/-- The route of an exchange is the one that it had, or it was found in the table in force. -/
def Exchange.FindsRoute (g : Gateway) (x y : Exchange) : Prop :=
  y.request = x.request ∧
  (y.resolved = x.resolved ∨
    ∃ found,
      y.resolved = some found ∧
      g.table.resolve x.request.method x.request.uri.path = .ok found)

theorem Exchange.FindsRoute.of_inquiry
    {g : Gateway}
    {x y : Exchange}
    (h : y.inquiry = x.inquiry) :
    x.FindsRoute g y := by
  obtain ⟨hrequest, hresolved, _⟩ := Exchange.inquiry_eq_iff.1 h
  exact ⟨hrequest, .inl hresolved⟩

theorem Exchange.FindsRoute.congr
    {g : Gateway}
    {x y z : Exchange}
    (h : x.FindsRoute g y)
    (hz : z.inquiry = y.inquiry) :
    x.FindsRoute g z := by
  obtain ⟨hrequest, hresolved, _⟩ := Exchange.inquiry_eq_iff.1 hz
  unfold FindsRoute
  rw [hrequest, hresolved]
  exact h

/-- One stage finds the route, and all others leave it. -/
theorem Stage.Passes.findsRoute
    {s : Surroundings}
    {g : Gateway}
    {x : Exchange}
    {stage : Stage}
    {p : Passage}
    (h : stage.Passes s g x p) :
    x.FindsRoute g p.exchange := by
  by_cases hroute : stage = .routeResolution
  · subst hroute
    obtain rfl := h.eq_pass nofun
    show x.FindsRoute g (resolveRoute g x).exchange
    rcases resolveRoute_cases g x with ⟨e, _, hx⟩ | ⟨found, hfound, hx⟩ <;> rw [hx]
    · exact .of_inquiry rfl
    · exact ⟨rfl, .inr ⟨found, rfl, hfound⟩⟩
  by_cases hcaller : stage = .authentication
  · subst hcaller
    obtain rfl := h.eq_pass nofun
    show x.FindsRoute g (authenticate s g x).exchange
    rcases authenticate_cases s g x with
      ⟨_, hx⟩ | ⟨_, _, _, hx⟩ | ⟨_, _, _, _, _, _, hx⟩ | ⟨_, _, _, _, _, _, hx⟩ <;>
      rw [hx] <;>
      exact ⟨rfl, .inl rfl⟩
  · exact .of_inquiry (h.frame.inquiry (by simp [hroute, hcaller]))

namespace Run

/-- A move of a run leaves its route, unless it finds one. -/
theorem Moves.findsRoute
    {g : Gateway}
    {r : Run}
    {e : Event}
    {next : Gateway × Run}
    (h : r.Moves g e next) :
    r.exchange.FindsRoute g next.2.exchange := by
  cases h with
  | stays => exact .of_inquiry rfl
  | finishes => exact .of_inquiry rfl
  | passes hp => exact hp.findsRoute.congr (inquiry_after _ _ _)
  | answered x c rest now a =>
      refine .of_inquiry ((inquiry_after _ _ _).trans ?_)
      cases a <;> rfl
  | expired => exact .of_inquiry (inquiry_after _ _ _)

end Run

/-- A gateway that takes a new configuration has its table, or else the one that it had. -/
theorem Gateway.table_reload
    (g : Gateway)
    (config : Config.Gateway) :
    (g.reload config).1.table = g.table ∨
    ∃ generation,
      config.validate = .ok () ∧
      RouteTable.compile generation config = .ok (g.reload config).1.table := by
  unfold reload prepare
  cases hvalid : config.validate with
  | error v => exact .inl rfl
  | ok u =>
      cases htable : RouteTable.compile g.nextGeneration config with
      | error e => exact .inl rfl
      | ok table => exact .inr ⟨g.nextGeneration, rfl, htable⟩

namespace Traffic

/-- What holds of all tables that an event may put in force. -/
def Event.PutsOnly (Q : RouteTable → Prop) : Event → Prop
  | reload config => ∀ generation table,
      config.validate = .ok () → RouteTable.compile generation config = .ok table → Q table
  | putTable table => Q table
  | _ => True

theorem Event.PutsOnly.mono
    {Q Q' : RouteTable → Prop}
    {e : Event}
    (h : e.PutsOnly Q)
    (hQ : ∀ t, Q t → Q' t) :
    e.PutsOnly Q' := by
  cases e with
  | reload config =>
      intro generation table hvalid htable
      exact hQ table (h generation table hvalid htable)
  | putTable table => exact hQ table h
  | _ => trivial

variable {Q : RouteTable → Prop}

/-- What holds of the tables that are put in force holds of the one that is. -/
theorem table_meet
    {t : Traffic}
    {e : Event}
    (hv : t.Vouched)
    (h : Q t.gateway.table)
    (he : e.PutsOnly Q) :
    Q (t.meet e).gateway.table := by
  cases hrenews : e.renews with
  | false =>
      rw [(guarding_meet hv e).table hrenews]
      exact h
  | true =>
      cases e with
      | reload config =>
          rcases t.gateway.table_reload config with hsame | ⟨generation, hvalid, htable⟩
          · exact hsame ▸ h
          · exact he generation _ hvalid htable
      | prepare config => exact (sameDesk_prepare t.gateway config).table ▸ h
      | putTable table => exact he
      | putConfig config => exact h
      | resetBalancers directory => exact h
      | clearBreakers => exact h
      | _ => cases hrenews

variable {g : Gateway}
variable {events : List Event}

theorem table_after
    (h : Q g.table)
    (hevents : ∀ e ∈ events, e.PutsOnly Q) :
    Q ((Traffic.new g).after events).gateway.table := by
  induction events using List.reverseRecOn with
  | nil => exact h
  | append_singleton events e ih =>
      rw [after_append_singleton]
      refine table_meet ((vouched_new g).after events) ?_ (hevents e (by simp))
      exact ih fun e' he' => hevents e' (List.mem_append_left _ he')

/-- The route of a request was found in a table that was in force. -/
theorem exists_table_of_resolved
    (h : Q g.table)
    (hevents : ∀ e ∈ events, e.PutsOnly Q)
    {id : Nat}
    {r : Run}
    (hr : ((Traffic.new g).after events).run? id = some r)
    {found : ResolvedRoute}
    (hfound : r.exchange.resolved = some found) :
    ∃ table,
      Q table ∧
      table.resolve r.exchange.request.method r.exchange.request.uri.path = .ok found := by
  refine run_invariant (P := fun events _ r => (∀ e ∈ events, e.PutsOnly Q) →
    ∀ found, r.exchange.resolved = some found → ∃ table,
      Q table ∧
      table.resolve r.exchange.request.method r.exchange.request.uri.path = .ok found)
    ?_ ?_ ?_ hr hevents found hfound
  · intro _ _ _ _ _ _ _ _ hnone
    cases hnone
  · intro events e id r hr hevents
    exact hr fun e' he' => hevents e' (List.mem_append_left _ he')
  · intro events id r e next _ hmoves hr hevents found hfound
    have hbefore : ∀ e' ∈ events, e'.PutsOnly Q :=
      fun e' he' => hevents e' (List.mem_append_left _ he')
    obtain ⟨hrequest, hsame | ⟨found', hfound', hresolve⟩⟩ := hmoves.findsRoute
    · rw [hrequest]
      exact hr hbefore found (hsame ▸ hfound)
    · rw [hrequest]
      obtain rfl := Option.some.inj (hfound.symm.trans hfound')
      exact ⟨_, table_after h hbefore, hresolve⟩

end Traffic
end ApiGateway
