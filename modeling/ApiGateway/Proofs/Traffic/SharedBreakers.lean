import ApiGateway.Proofs.Text.Joined
import ApiGateway.Proofs.Traffic.Indifference

/-!
# Whose breaker is whose

Each call under a policy has to do with the breaker of its name and with no other one. The name is
the key of the route, with the endpoint behind a mark where the route has a breaker for each of its
backends. Keys end in path templates, which may have the mark themselves, so that calls of two
routes may have one name; this happens just when they are `Confused`.

Main statement: `shares_breaker_iff`.
-/

namespace ApiGateway

namespace GuardedCall

/--
A call of a route with a breaker for each backend, and one of another route whose key goes on,
behind the mark, with all or with the front of what the endpoint of the former is.
-/
def GoesOn (c c' : GuardedCall) : Prop :=
  c.policy.scope = .host ∧
  ∃ d,
    c'.route.key = c.route.key ++ "@" ++ d ∧
    (c'.policy.scope = .route ∧ c.endpoint = d ∨
      c'.policy.scope = .host ∧ c.endpoint = d ++ "@" ++ c'.endpoint)

/-- Calls of different routes that have one name. -/
def Confused (c c' : GuardedCall) : Prop :=
  c.GoesOn c' ∨ c'.GoesOn c

section Names

variable {c c' : GuardedCall}

theorem scope_of_route (h : c.policy.scope = .route) : c.scope = c.route.key := by
  simp only [scope, Qos.Policy.scopeKey, h]

theorem scope_of_host (h : c.policy.scope = .host) :
    c.scope = c.route.key ++ String.singleton '@' ++ c.endpoint := by
  simp only [scope, Qos.Policy.scopeKey, h]
  rfl

theorem not_goesOn_of_route (h : c.policy.scope = .route) : ¬ c.GoesOn c' := by
  rintro ⟨hhost, _⟩
  rw [h] at hhost
  cases hhost

/-- The name of a call for a backend is the key of a route that has one breaker. -/
theorem goesOn_iff_of_route
    (hc : c.policy.scope = .host)
    (hc' : c'.policy.scope = .route) :
    c.GoesOn c' ↔ c.scope = c'.scope := by
  rw [scope_of_host hc, scope_of_route hc']
  constructor
  · rintro ⟨_, d, hkey, ⟨_, rfl⟩ | ⟨hhost, _⟩⟩
    · exact hkey.symm
    · rw [hc'] at hhost
      cases hhost
  · intro hname
    exact ⟨hc, c.endpoint, hname.symm, .inl ⟨hc', rfl⟩⟩

/-- Two names of calls for backends are joined to one. -/
theorem confused_iff_of_host
    (hc : c.policy.scope = .host)
    (hc' : c'.policy.scope = .host) :
    c.Confused c' ↔
      ∃ d,
        (c'.route.key = c.route.key ++ String.singleton '@' ++ d ∧
          c.endpoint = d ++ String.singleton '@' ++ c'.endpoint) ∨
        (c.route.key = c'.route.key ++ String.singleton '@' ++ d ∧
          c'.endpoint = d ++ String.singleton '@' ++ c.endpoint) := by
  have hgoes : ∀ {c c' : GuardedCall}, c.policy.scope = .host → c'.policy.scope = .host →
      (c.GoesOn c' ↔
        ∃ d, c'.route.key = c.route.key ++ String.singleton '@' ++ d ∧
          c.endpoint = d ++ String.singleton '@' ++ c'.endpoint) := by
    intro c c' hc hc'
    constructor
    · rintro ⟨_, d, hkey, ⟨hroute, _⟩ | ⟨_, hendpoint⟩⟩
      · rw [hc'] at hroute
        cases hroute
      · exact ⟨d, hkey, hendpoint⟩
    · rintro ⟨d, hkey, hendpoint⟩
      exact ⟨hc, d, hkey, .inr ⟨hc', hendpoint⟩⟩
  unfold Confused
  rw [hgoes hc hc', hgoes hc' hc, exists_or]

/-- Calls of routes with different keys have one name if they are confused. -/
theorem scope_eq_iff (hkey : c.route.key ≠ c'.route.key) :
    c.scope = c'.scope ↔ c.Confused c' := by
  unfold Confused
  cases hc : c.policy.scope with
  | route =>
      cases hc' : c'.policy.scope with
      | route =>
          rw [scope_of_route hc, scope_of_route hc']
          exact iff_of_false hkey (not_or.2 ⟨not_goesOn_of_route hc, not_goesOn_of_route hc'⟩)
      | host =>
          rw [or_iff_right (not_goesOn_of_route hc), goesOn_iff_of_route hc' hc, eq_comm]
  | host =>
      cases hc' : c'.policy.scope with
      | route => rw [or_iff_left (not_goesOn_of_route hc'), goesOn_iff_of_route hc hc']
      | host =>
          have hconfused := confused_iff_of_host hc hc'
          unfold Confused at hconfused
          rw [scope_of_host hc, scope_of_host hc', Text.joined_eq_iff, hconfused]
          exact or_iff_right fun hsame => hkey hsame.1

/--
Calls of one route for different backends have different names where it has a breaker for each.
-/
theorem scope_ne_of_endpoint_ne
    (hkey : c.route.key = c'.route.key)
    (hc : c.policy.scope = .host)
    (hc' : c'.policy.scope = .host)
    (hendpoint : c.endpoint ≠ c'.endpoint) :
    c.scope ≠ c'.scope := by
  rw [scope_of_host hc, scope_of_host hc', hkey]
  intro hname
  exact hendpoint ((String.append_right_inj _).1 hname)

end Names
end GuardedCall

namespace Traffic

/-- No breaker changes at an event but the one that is used there. -/
def TouchesUsedOnly (t : Traffic) (e : Event) : Prop :=
  ∀ j, (∀ u, t.use? e = some u → u.breaker ≠ j) →
    (t.meet e).gateway.breakers.breakers[j]? = t.gateway.breakers.breakers[j]?

/-- What holds of traffic while one table is in force and no scope is forgotten. -/
structure Assigned (t : Traffic) : Prop where
  compiled : t.gateway.IsCompiled
  vouched : t.Vouched
  sound : t.gateway.breakers.Sound
  known : ∀ id r found, t.pending? id = some r → r.exchange.resolved = some found →
    found.route ∈ t.gateway.table.routes
  bound : ∀ id r, t.pending? id = some r → r.Bound t.gateway.breakers

/-- A use of the breaker in charge of its name, for a call of a route in the table. -/
structure Fits (t : Traffic) (u : BreakerUse) : Prop where
  route : u.call.route ∈ t.gateway.table.routes
  policy : u.call.route.qos = some u.call.policy
  scope : t.gateway.breakers.scopes[u.call.scope]? = some u.breaker

namespace Assigned

variable {t : Traffic}
variable {e : Event}

theorem of_ofConfig
    {config : Config.Gateway}
    {g : Gateway}
    (hg : Gateway.ofConfig config = .ok g) :
    (Traffic.new g).Assigned := by
  have hnone : ∀ id, (Traffic.new g).pending? id = none := fun id => rfl
  have hcompiled := Gateway.isCompiled_ofConfig hg
  obtain ⟨table, _, hg⟩ := bind_eq_ok.1 hg
  cases hg
  refine ⟨hcompiled, vouched_new _, ⟨by simp [new], by simp [new]⟩, ?_, ?_⟩
  · intro id r found hr
    rw [hnone] at hr
    cases hr
  · intro id r hr
    rw [hnone] at hr
    cases hr

theorem meet
    (h : t.Assigned)
    (he : e.renews = false) :
    (t.meet e).Assigned := by
  have hguarding := guarding_meet h.vouched e
  have hused := hguarding.used (forgets_of_renews he)
  have hcompiled : (t.meet e).gateway.IsCompiled := by
    unfold Gateway.IsCompiled
    rw [hguarding.table he]
    exact h.compiled
  refine ⟨hcompiled, h.vouched.meet e, hused.sound h.sound, ?_, ?_⟩
  · intro id r' found hr' hfound
    rw [hguarding.table he]
    rcases hguarding.runs id r' hr' with hr | ⟨request, peer, requestId, now, rfl⟩ | ⟨r, hr, hstep⟩
    · exact h.known id r' found hr hfound
    · cases hfound
    · rcases hstep.resolved found hfound with hold | hnew
      · exact h.known id r found hr hold
      · exact hnew
  · intro id r' hr'
    rcases hguarding.runs id r' hr' with hr | ⟨request, peer, requestId, now, rfl⟩ | ⟨r, hr, hstep⟩
    · intro call guard c hcall hguard hc
      exact hused.scopes_of_some (h.bound id r' hr call guard c hcall hguard hc)
    · exact fun call guard c hcall => nomatch hcall
    · exact hstep.bound (h.bound id r hr)

theorem fits_meet
    (h : t.Assigned)
    (he : e.renews = false)
    {u : BreakerUse}
    (hu : t.use? e = some u) :
    (t.meet e).Fits u := by
  have hguarding := guarding_meet h.vouched e
  have hused := hguarding.used (forgets_of_renews he)
  obtain ⟨id, r, hr, huse⟩ := exists_useOf hu
  obtain ⟨found, hfound, hroute, hpolicy⟩ := Exchange.guarded?_eq_some huse.guarded
  refine ⟨?_, hpolicy, ?_⟩
  · rw [hguarding.table he, ← hroute]
    exact h.known id r found hr hfound
  · cases hasks : u.asks with
    | true =>
        rw [hu] at hused
        exact hused.scopes_asked hasks
    | false =>
        obtain ⟨call, guard, hcall, hguard, hbreaker⟩ := huse.tells hasks
        rw [← hbreaker]
        exact hused.scopes_of_some (h.bound id r hr call guard _ hcall hguard huse.guarded)

/-- A breaker stays in charge of its name. -/
theorem fits_later
    (h : t.Assigned)
    (he : e.renews = false)
    {u : BreakerUse}
    (hu : t.Fits u) :
    (t.meet e).Fits u := by
  have hguarding := guarding_meet h.vouched e
  have hused := hguarding.used (forgets_of_renews he)
  refine ⟨?_, hu.policy, hused.scopes_of_some hu.scope⟩
  rw [hguarding.table he]
  exact hu.route

theorem after
    (h : t.Assigned)
    {events : List Event}
    (hevents : ∀ e, e ∈ events → e.renews = false) :
    (t.after events).Assigned ∧
      (∀ u, t.Fits u → (t.after events).Fits u) ∧
      ∀ u, u ∈ t.uses events → (t.after events).Fits u := by
  induction events generalizing t with
  | nil => exact ⟨h, fun _ hu => hu, fun _ hu => nomatch hu⟩
  | cons e es ih =>
      have he := hevents e List.mem_cons_self
      obtain ⟨hlast, hlater, huses⟩ :=
        ih (h.meet he) fun e' he' => hevents e' (List.mem_cons_of_mem e he')
      refine ⟨hlast, fun u hu => hlater u (h.fits_later he hu), ?_⟩
      intro u hu
      rcases List.mem_append.1 hu with hu | hu
      · exact hlater u (h.fits_meet he (Option.mem_toList.1 hu))
      · exact huses u hu

theorem touchesUsedOnly
    (h : t.Assigned)
    (he : e.renews = false) :
    t.TouchesUsedOnly e :=
  fun _ hj => ((guarding_meet h.vouched e).used (forgets_of_renews he)).frame hj

end Assigned

/--
While one table is in force, every event looks at no breaker and touches none but the one that a
call uses there. Calls of different routes use one breaker just when their names are confused, and
calls of one route for different backends never do where it has a breaker for each.
-/
theorem shares_breaker_iff
    {config : Config.Gateway}
    {g : Gateway}
    (hg : Gateway.ofConfig config = .ok g)
    {events : List Event}
    (hevents : ∀ e, e ∈ events → e.renews = false) :
    (∀ before e later, events = before ++ e :: later →
      ((Traffic.new g).after before).TouchesUsedOnly e ∧
      ((Traffic.new g).after before).LooksAtUsedOnly e) ∧
    ∀ u u', u ∈ (Traffic.new g).uses events → u' ∈ (Traffic.new g).uses events →
      (u.call.route ≠ u'.call.route → (u.breaker = u'.breaker ↔ u.call.Confused u'.call)) ∧
      (u.call.route = u'.call.route → u.call.policy.scope = .host →
        u.call.endpoint ≠ u'.call.endpoint → u.breaker ≠ u'.breaker) := by
  have hnew := Assigned.of_ofConfig hg
  obtain ⟨hlast, _, hfits⟩ := hnew.after hevents
  constructor
  · intro before e later hsplit
    subst hsplit
    have hbefore := (hnew.after fun e' he' => hevents e' (List.mem_append_left _ he')).1
    exact ⟨hbefore.touchesUsedOnly (hevents e (List.mem_append_right _ List.mem_cons_self)),
      looksAtUsedOnly_meet hbefore.vouched e⟩
  · intro u u' hu hu'
    have hu := hfits u hu
    have hu' := hfits u' hu'
    have hname : u.breaker = u'.breaker ↔ u.call.scope = u'.call.scope := by
      constructor
      · intro hbreaker
        exact hlast.sound.apart hu.scope (hbreaker ▸ hu'.scope)
      · intro hscope
        have hi := hu.scope
        rw [hscope, hu'.scope] at hi
        exact (Option.some.inj hi).symm
    constructor
    · intro hroute
      obtain ⟨_, _, hcompile⟩ := hlast.compiled
      exact hname.trans <| GuardedCall.scope_eq_iff fun hkey =>
        hroute (RouteTable.eq_of_key_eq hcompile hu.route hu'.route hkey)
    · intro hroute hscope hendpoint
      have hpolicy : u.call.policy = u'.call.policy := by
        have hp := hu.policy
        rw [hroute, hu'.policy] at hp
        exact (Option.some.inj hp).symm
      exact mt hname.1 <| GuardedCall.scope_ne_of_endpoint_ne (congrArg Route.key hroute) hscope
        (hpolicy ▸ hscope) hendpoint

section Collision

/-- A route with a breaker for each backend, and one whose path goes on with its backend. -/
def adjoining : Config.Gateway where
  routes :=
    [{ upstreamPathTemplate := "/a"
       downstreamPathTemplate := "/one"
       downstreamHosts := [⟨"h", 1⟩]
       qos := some { exceptionsAllowed := 1, timeoutMs := 1000, scope := "host" } },
     { upstreamPathTemplate := "/a@h:1"
       downstreamPathTemplate := "/two"
       downstreamHosts := [⟨"other", 2⟩]
       qos := some { exceptionsAllowed := 1, timeoutMs := 1000, scope := "route" } }]

/-- A request of the first route fails, and one of the second route comes to its call. -/
def failureNextDoor : List Event :=
  let request (path : String) : Request := ⟨.get, ⟨none, none, some ⟨path, none⟩⟩, {}, []⟩
  [.arrive (request "/a") ⟨.v4 127 0 0 1, 4000⟩ "" 0,
    .arrive (request "/a@h:1") ⟨.v4 127 0 0 1, 4001⟩ "" 0]
    ++ List.replicate 8 (.meet 0 (.pass { now := 1 }))
    ++ [.meet 0 (.expire 2)]
    ++ List.replicate 8 (.meet 1 (.pass { now := 3 }))

theorem validate_adjoining : adjoining.validate = .ok () := by
  have h : adjoining.validate.toOption.map id = some () := by decide +kernel
  obtain ⟨_, hv, _⟩ := exists_eq_ok_of_map h
  exact hv

/--
The configuration is accepted. When a call of the first route has run out of time, the breaker that
it shares with the second route refuses the call of the latter.
-/
theorem shares_breaker_iff_failureNextDoor :
    adjoining.validate = .ok () ∧
    ∃ g u u',
      Gateway.ofConfig adjoining = .ok g ∧
      u ∈ (Traffic.new g).uses failureNextDoor ∧
      u' ∈ (Traffic.new g).uses failureNextDoor ∧
      u.call.route ≠ u'.call.route ∧
      u.breaker = u'.breaker ∧
      (((Traffic.new g).after failureNextDoor).runs[1]?.join.bind (·.response?)).map (·.status) =
        some 503 := by
  have hrun :
      ((Gateway.ofConfig adjoining).toOption.map fun g =>
        (((Traffic.new g).uses failureNextDoor).map fun u =>
            (u.call.route.key, u.call.policy.scope, u.call.endpoint),
          (((Traffic.new g).after failureNextDoor).runs[1]?.join.bind (·.response?)).map
            (·.status))) =
      some ([("*|/a", .host, "h:1"), ("*|/a", .host, "h:1"), ("*|/a@h:1", .route, "other:2")],
        some 503) := by
    decide +kernel
  obtain ⟨g, hg, hrun⟩ := exists_eq_ok_of_map hrun
  obtain ⟨huses, hstatus⟩ := Prod.mk.inj hrun
  obtain ⟨u, hu, hfacts⟩ : ∃ u, u ∈ (Traffic.new g).uses failureNextDoor ∧
      (u.call.route.key, u.call.policy.scope, u.call.endpoint) = ("*|/a", .host, "h:1") := by
    refine List.mem_map.1 ?_
    rw [huses]
    decide
  obtain ⟨u', hu', hfacts'⟩ : ∃ u, u ∈ (Traffic.new g).uses failureNextDoor ∧
      (u.call.route.key, u.call.policy.scope, u.call.endpoint) =
        ("*|/a@h:1", .route, "other:2") := by
    refine List.mem_map.1 ?_
    rw [huses]
    decide
  obtain ⟨hkey, hscope, hendpoint⟩ :
      u.call.route.key = "*|/a" ∧ u.call.policy.scope = .host ∧ u.call.endpoint = "h:1" := by
    simpa using hfacts
  obtain ⟨hkey', hscope', _⟩ :
      u'.call.route.key = "*|/a@h:1" ∧ u'.call.policy.scope = .route ∧
        u'.call.endpoint = "other:2" := by
    simpa using hfacts'
  have hne : u.call.route ≠ u'.call.route := by
    intro heq
    rw [heq, hkey'] at hkey
    exact absurd hkey (by decide)
  have hconfused : u.call.Confused u'.call := by
    refine .inl ⟨hscope, "h:1", ?_, .inl ⟨hscope', hendpoint⟩⟩
    rw [hkey, hkey']
    decide
  have hshared := ((shares_breaker_iff hg (by decide)).2 u u' hu hu').1 hne
  exact ⟨validate_adjoining, g, u, u', hg, hu, hu', hne, hshared.2 hconfused, hstatus⟩

end Collision

end Traffic
end ApiGateway
