import ApiGateway.Proofs.Traffic.SharedBreakers

/-!
# Whose settings a breaker has

A breaker is made for the first call that asks under its name after the scopes were forgotten, and
keeps the settings of the policy of this call. A new configuration forgets all scopes, so its calls
are guarded as it says, unless somebody else comes first: a request that holds a route of the former
table still, or a call of another route with the same name.

Main statement: `guarded_as_founded`.
-/

namespace ApiGateway
namespace Traffic

/-- The call that asks a breaker at an event. -/
def asker? (t : Traffic) (e : Event) : Option GuardedCall :=
  ((t.use? e).filter (·.asks)).map (·.call)

/-- The calls that have asked since the scopes were forgotten, with one more event. -/
def askedWith (t : Traffic) (asked : List GuardedCall) (e : Event) : List GuardedCall :=
  if t.forgets e then [] else asked ++ (t.asker? e).toList

/-- The calls that have asked since the scopes were forgotten the last time. -/
def asked (t : Traffic) (before : List GuardedCall) : List Event → List GuardedCall
  | [] => before
  | e :: es => (t.meet e).asked (t.askedWith before e) es

/-- The first of some calls with a certain name. -/
def founder? (asked : List GuardedCall) (scope : String) : Option GuardedCall :=
  asked.find? fun c => c.scope = scope

/-- Only tables that were compiled are put in force. -/
def Event.PutsCompiled : Event → Prop
  | putTable table => ∃ generation config, RouteTable.compile generation config = .ok table
  | _ => True

/-- Every breaker in charge of a scope has the settings of the first call that asked under it. -/
structure Founded (t : Traffic) (asked : List GuardedCall) : Prop where
  vouched : t.Vouched
  sound : t.gateway.breakers.Sound
  policy : ∀ c, c ∈ asked → c.route.qos = some c.policy
  founded : ∀ scope i, t.gateway.breakers.scopes[scope]? = some i →
    ∃ f b,
      founder? asked scope = some f ∧
      t.gateway.breakers.breakers[i]? = some b ∧
      b.settings = f.policy.breaker
  unknown : ∀ scope, t.gateway.breakers.scopes[scope]? = none → founder? asked scope = none

section Founders

variable {t : Traffic}
variable {asked : List GuardedCall}
variable {e : Event}

theorem founder?_eq_some
    {f : GuardedCall}
    {scope : String}
    (h : founder? asked scope = some f) :
    f ∈ asked ∧ f.scope = scope := by
  refine ⟨List.mem_of_find?_eq_some h, ?_⟩
  simpa using List.find?_some h

theorem founder?_append_of_some
    {f : GuardedCall}
    {scope : String}
    (h : founder? asked scope = some f)
    (more : List GuardedCall) :
    founder? (asked ++ more) scope = some f := by
  unfold founder? at h ⊢
  rw [List.find?_append, h]
  rfl

theorem founder?_append_of_none
    {scope : String}
    (h : founder? asked scope = none)
    (more : List GuardedCall) :
    founder? (asked ++ more) scope = founder? more scope := by
  unfold founder? at h ⊢
  rw [List.find?_append, h]
  rfl

theorem asked_append_singleton (events : List Event) :
    t.asked asked (events ++ [e]) = (t.after events).askedWith (t.asked asked events) e := by
  induction events generalizing t asked with
  | nil => rfl
  | cons e' es ih => exact ih

theorem founded_new {config : Config.Gateway} {g : Gateway} (hg : Gateway.ofConfig config = .ok g) :
    (Traffic.new g).Founded [] := by
  have hnew := Assigned.of_ofConfig hg
  have hempty : g.breakers = {} := by
    obtain ⟨_, _, hg⟩ := bind_eq_ok.1 hg
    cases hg
    rfl
  refine ⟨hnew.vouched, hnew.sound, by simp, ?_, fun _ _ => rfl⟩
  intro scope i hi
  simp [new, hempty] at hi

theorem asker?_eq_some_iff {c : GuardedCall} :
    t.asker? e = some c ↔ ∃ u, t.use? e = some u ∧ u.asks = true ∧ u.call = c := by
  simp only [asker?, Option.map_eq_some_iff, Option.filter_eq_some_iff, and_assoc]

theorem policy_asker?
    {c : GuardedCall}
    (hc : t.asker? e = some c) :
    c.route.qos = some c.policy := by
  obtain ⟨u, hu, _, rfl⟩ := asker?_eq_some_iff.1 hc
  obtain ⟨_, _, _, huse⟩ := exists_useOf hu
  obtain ⟨_, _, _, hpolicy⟩ := Exchange.guarded?_eq_some huse.guarded
  exact hpolicy

/-- One more call may ask, while no scope is forgotten. -/
theorem Founded.ask
    (h : t.Founded asked)
    (hforgets : t.forgets e = false) :
    (t.meet e).Founded (asked ++ (t.asker? e).toList) := by
  have hused := (guarding_meet h.vouched e).used hforgets
  refine ⟨h.vouched.meet e, hused.sound h.sound, ?_, ?_, ?_⟩
  · intro c hc
    rcases List.mem_append.1 hc with hc | hc
    · exact h.policy c hc
    · exact policy_asker? (Option.mem_toList.1 hc)
  · intro scope i hi
    rcases hused.scopes scope with hsame | ⟨u, hu, hasks, hscope, hnone, hnew⟩
    · rw [hsame] at hi
      obtain ⟨f, b, hf, hb, hsettings⟩ := h.founded scope i hi
      obtain ⟨b', hb', hkept⟩ := hused.settings h.sound hb
      exact ⟨f, b', founder?_append_of_some hf _, hb', hkept.trans hsettings⟩
    · -- the call that asks is the first one, and the breaker is made for it
      rw [hi] at hnew
      cases hnew
      subst hscope
      rw [hu] at hused
      obtain ⟨b, hb, hsettings⟩ := hused.founded h.sound hasks hnone
      have hasker : t.asker? e = some u.call := asker?_eq_some_iff.2 ⟨u, hu, hasks, rfl⟩
      refine ⟨u.call, b, ?_, hb, hsettings⟩
      rw [founder?_append_of_none (h.unknown _ hnone), hasker]
      simp [founder?]
  · intro scope hnone
    have hbefore : t.gateway.breakers.scopes[scope]? = none := by
      cases hi : t.gateway.breakers.scopes[scope]? with
      | none => rfl
      | some i =>
          rw [hused.scopes_of_some hi] at hnone
          cases hnone
    rw [founder?_append_of_none (h.unknown scope hbefore)]
    refine List.find?_eq_none.2 fun c hc => ?_
    obtain ⟨u, hu, hasks, rfl⟩ := asker?_eq_some_iff.1 (Option.mem_toList.1 hc)
    rw [hu] at hused
    intro hscope
    rw [← of_decide_eq_true hscope, hused.scopes_asked hasks] at hnone
    cases hnone

theorem Founded.meet (h : t.Founded asked) (e : Event) :
    (t.meet e).Founded (t.askedWith asked e) := by
  unfold askedWith
  cases hforgets : t.forgets e with
  | false => exact h.ask hforgets
  | true =>
      have hbreakers := ((guarding_meet h.vouched e).forgot hforgets).2
      refine ⟨h.vouched.meet e, ?_, by simp, ?_, fun _ _ => rfl⟩
      · rw [hbreakers]
        exact h.sound.of_scopes (.inr rfl) (Nat.le_refl _)
      · intro scope i hi
        simp [hbreakers, BreakerRegistry.clear] at hi

theorem Founded.after (h : t.Founded asked) (events : List Event) :
    (t.after events).Founded (t.asked asked events) := by
  induction events generalizing t asked with
  | nil => exact h
  | cons e es ih => exact ih (h.meet e)

/-- The table in force is a compiled one. -/
theorem isCompiled_meet
    (h : t.gateway.IsCompiled)
    (hv : t.Vouched)
    (he : e.PutsCompiled) :
    (t.meet e).gateway.IsCompiled := by
  have hsame : ∀ {g : Gateway}, g.table = t.gateway.table → g.IsCompiled := by
    intro g hg
    unfold Gateway.IsCompiled
    rw [hg]
    exact h
  cases hrenews : e.renews with
  | false => exact hsame ((guarding_meet hv e).table hrenews)
  | true =>
      cases e with
      | reload config => exact Gateway.isCompiled_reload h config
      | prepare config => exact hsame (sameDesk_prepare t.gateway config).table
      | putTable table => exact he
      | putConfig config => exact h
      | resetBalancers directory => exact h
      | clearBreakers => exact h
      | _ => cases hrenews

theorem isCompiled_after
    (h : t.gateway.IsCompiled)
    (hv : t.Vouched)
    {events : List Event}
    (hevents : ∀ e, e ∈ events → e.PutsCompiled) :
    (t.after events).gateway.IsCompiled := by
  induction events generalizing t with
  | nil => exact h
  | cons e es ih =>
      refine ih (isCompiled_meet h hv (hevents e List.mem_cons_self)) (hv.meet e) ?_
      exact fun e' he' => hevents e' (List.mem_cons_of_mem e he')

/-- Calls of routes of one table that have one name have one policy, unless they are confused. -/
theorem policy_eq_of_scope_eq
    (h : t.gateway.IsCompiled)
    {c c' : GuardedCall}
    (hc : c.route ∈ t.gateway.table.routes)
    (hc' : c'.route ∈ t.gateway.table.routes)
    (hpolicy : c.route.qos = some c.policy)
    (hpolicy' : c'.route.qos = some c'.policy)
    (hscope : c.scope = c'.scope)
    (hconfused : ¬ c.Confused c') :
    c.policy = c'.policy := by
  have hkey : c.route.key = c'.route.key := by
    refine Decidable.byContradiction fun hne => hconfused ?_
    exact (GuardedCall.scope_eq_iff hne).1 hscope
  obtain ⟨_, _, hcompile⟩ := h
  rw [RouteTable.eq_of_key_eq hcompile hc hc' hkey, hpolicy'] at hpolicy
  exact (Option.some.inj hpolicy).symm

end Founders

/--
Whatever happens, a call is guarded by a breaker with the settings of the call that was the first
one to ask under this name since the scopes were forgotten. These are its own settings if both calls
are of routes of the table in force and are not confused.
-/
theorem guarded_as_founded
    {config : Config.Gateway}
    {g : Gateway}
    (hg : Gateway.ofConfig config = .ok g)
    {events : List Event}
    (hevents : ∀ e, e ∈ events → e.PutsCompiled)
    {e : Event}
    {u : BreakerUse}
    (hu : ((Traffic.new g).after events).use? e = some u)
    (hasks : u.asks = true) :
    ∃ f b,
      founder? ((Traffic.new g).asked [] (events ++ [e])) u.call.scope = some f ∧
      (((Traffic.new g).after events).meet e).gateway.breakers.breakers[u.breaker]? = some b ∧
      b.settings = f.policy.breaker ∧
      (u.call.route ∈ ((Traffic.new g).after events).gateway.table.routes →
        f.route ∈ ((Traffic.new g).after events).gateway.table.routes →
        ¬ f.Confused u.call →
        b.settings = u.call.policy.breaker) := by
  have hnew := Assigned.of_ofConfig hg
  have hbefore := (founded_new hg).after events
  have hcompiled := isCompiled_after hnew.compiled hnew.vouched hevents
  rw [asked_append_singleton]
  generalize (Traffic.new g).after events = t at hu hbefore hcompiled ⊢
  generalize (Traffic.new g).asked [] events = asked at hbefore ⊢
  have hguarding := guarding_meet hbefore.vouched e
  have hforgets : t.forgets e = false := by
    refine Bool.eq_false_iff.2 fun hforgets => ?_
    rw [(hguarding.forgot hforgets).1] at hu
    cases hu
  have hused := hguarding.used hforgets
  rw [hu] at hused
  have hafter := hbefore.meet e
  obtain ⟨f, b, hf, hb, hsettings⟩ := hafter.founded _ _ (hused.scopes_asked hasks)
  refine ⟨f, b, hf, hb, hsettings, ?_⟩
  intro hroute hfounder hconfused
  have hpolicy := policy_asker? (asker?_eq_some_iff.2 ⟨u, hu, hasks, rfl⟩)
  obtain ⟨hmem, hscope⟩ := founder?_eq_some hf
  rw [hsettings, policy_eq_of_scope_eq hcompiled hfounder hroute (hafter.policy f hmem) hpolicy
    hscope hconfused]

section Straggling

/-- A route whose breaker opens after a number of failures. -/
def tolerating (failures : UInt32) : Config.Gateway where
  routes :=
    [{ upstreamPathTemplate := "/a"
       downstreamPathTemplate := "/one"
       downstreamHosts := [⟨"h", 1⟩]
       qos := some { exceptionsAllowed := failures, timeoutMs := 1000 } }]

/-- A request that has found its route before a new configuration calls its backend after it. -/
def straggler : List Event :=
  let request : Request := ⟨.get, ⟨none, none, some ⟨"/a", none⟩⟩, {}, []⟩
  [.arrive request ⟨.v4 127 0 0 1, 4000⟩ "" 0,
    .meet 0 (.pass { now := 1 }),
    .reload (tolerating 5),
    .arrive request ⟨.v4 127 0 0 1, 4001⟩ "" 2]
    ++ List.replicate 7 (.meet 0 (.pass { now := 3 }))
    ++ List.replicate 7 (.meet 1 (.pass { now := 4 }))

/-- The call that comes next. -/
def nextCall : Event := .meet 1 (.pass { now := 4 })

/-- It is a call of a route of the new table, but its breaker opens as that of the old one. -/
theorem guarded_as_founded_straggler :
    ∃ g u b,
      Gateway.ofConfig (tolerating 1) = .ok g ∧
      ((Traffic.new g).after straggler).use? nextCall = some u ∧
      u.asks = true ∧
      u.call.route ∈ ((Traffic.new g).after straggler).gateway.table.routes ∧
      (((Traffic.new g).after straggler).meet nextCall).gateway.breakers.breakers[u.breaker]? =
        some b ∧
      u.call.policy.breaker.failureThreshold = 5 ∧
      b.settings.failureThreshold = 1 := by
  have hrun :
      ((Gateway.ofConfig (tolerating 1)).toOption.map fun g =>
        ((((Traffic.new g).after straggler).use? nextCall).map fun u =>
            (u.asks,
              decide (u.call.route ∈ ((Traffic.new g).after straggler).gateway.table.routes),
              u.call.scope,
              u.call.policy.breaker.failureThreshold),
          (founder? ((Traffic.new g).asked [] (straggler ++ [nextCall])) "*|/a").map
            (·.policy.breaker.failureThreshold))) =
      some (some (true, true, "*|/a", 5), some 1) := by
    decide +kernel
  obtain ⟨g, hg, hrun⟩ := exists_eq_ok_of_map hrun
  obtain ⟨huse, hfounder⟩ := Prod.mk.inj hrun
  obtain ⟨u, hu, hfacts⟩ := Option.map_eq_some_iff.1 huse
  obtain ⟨hasks, hroute, hscope, hown⟩ :
      u.asks = true ∧ u.call.route ∈ ((Traffic.new g).after straggler).gateway.table.routes ∧
        u.call.scope = "*|/a" ∧ u.call.policy.breaker.failureThreshold = 5 := by
    simpa using hfacts
  have hevents : ∀ e, e ∈ straggler → e.PutsCompiled := by
    simp [straggler, Event.PutsCompiled, or_imp, forall_and]
  obtain ⟨f, b, hf, hb, hsettings, _⟩ := guarded_as_founded hg hevents hu hasks
  refine ⟨g, u, b, hg, hu, hasks, hroute, hb, hown, ?_⟩
  rw [hscope] at hf
  rw [hf] at hfounder
  rw [hsettings]
  exact Option.some.inj hfounder

end Straggling

end Traffic
end ApiGateway
