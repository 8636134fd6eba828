import ApiGateway.Proofs.Qos.Breaks
import ApiGateway.Proofs.RateLimit.Reckonings
import ApiGateway.Proofs.RateLimit.Sweeps
import ApiGateway.Proofs.Traffic.CacheUse
import ApiGateway.Proofs.Traffic.LimiterUse
import ApiGateway.Proofs.Traffic.Tables

/-!
# Reckonings in traffic

A gateway reckons with the time where it counts a request, where it tells a caller when the window
closes, where it stores an answer, and where a breaker opens. A configuration says for how long
windows, answers and breaks last, and nothing bounds what it says but the width of its numbers.

Main statement: `reckonsInRange_iff`.
-/

namespace ApiGateway

/-- The end of a guarded call: the guard, how the call ended, and when. -/
structure Qos.Settlement where
  guard : Guard
  succeeded : Bool
  time : Instant

/-- What is reckoned when a guard is settled: the end of the break, if the breaker opens. -/
def Qos.Settlement.reckonings (s : Settlement) (r : BreakerRegistry) : List Reckoning :=
  match r.breakers[s.guard.breaker]? with
  | none => []
  | some b =>
      if (leave r (some s.guard) s.succeeded s.time).2 then
        [.instant (s.time + b.settings.breakDuration)]
      else []

theorem Qos.Settlement.exists_of_mem_reckonings
    {s : Settlement}
    {r : BreakerRegistry}
    {k : Reckoning}
    (hk : k ∈ s.reckonings r) :
    ∃ b,
      r.breakers[s.guard.breaker]? = some b ∧
      k = .instant (s.time + b.settings.breakDuration) := by
  unfold reckonings at hk
  split at hk
  · cases hk
  · rename_i b hb
    split at hk
    · exact ⟨b, hb, List.mem_singleton.1 hk⟩
    · cases hk

/-- What is reckoned when an answer is stored, if there is room for it. -/
def Cache.Write.reckonings (w : Write) (s : Store) (key : String) : List Reckoning :=
  if (s.add key w.response w.ttl w.region w.time).2.isOk then [.instant w.entry.expiresAt] else []

theorem Cache.Write.eq_of_mem_reckonings
    {w : Write}
    {s : Store}
    {key : String}
    {k : Reckoning}
    (hk : k ∈ w.reckonings s key) :
    k = .instant w.entry.expiresAt := by
  unfold reckonings at hk
  split at hk
  · exact List.mem_singleton.1 hk
  · cases hk

/-- All windows of callers that can come through this table fit, and they can be told of them. -/
def RouteTable.LimitsInTime (h : Horizon) (t : RouteTable) : Prop :=
  ∀ (request : Request) (found : ResolvedRoute) (p : RateLimit.Policy),
    t.resolve request.method request.uri.path = .ok found →
    found.route.rateLimit = some p →
    p.isWhitelisted (p.clientId request.headers) = false →
    p.FitsIn h

/-- All answers that are stored expire in time. -/
def RouteTable.KeepsInTime (h : Horizon) (t : RouteTable) : Prop :=
  ∀ r ∈ t.routes, ∀ p ∈ r.cache, (Reckoning.instant (h.last + p.ttl)).InRange h.origin

/-- A table that was made from a configuration, and that says nothing that is out of range. -/
structure RouteTable.InTime (h : Horizon) (t : RouteTable) : Prop where
  compiled : ∃ generation config, compile generation config = .ok t
  limits : t.LimitsInTime h
  keeps : t.KeepsInTime h

/-- All breaks that can be configured end in time. -/
def Horizon.OutlastsBreaks (h : Horizon) : Prop :=
  (Reckoning.instant (h.last + BreakerSettings.longestBreak)).InRange h.origin

namespace Traffic

def Event.now? : Event → Option Instant
  | arrive _ _ _ now => some now
  | beginLease _ now => some now
  | meet _ (.pass s) => some s.now
  | meet _ (.answer now _) => some now
  | meet _ (.expire now) => some now
  | abandon _ now => some now
  | sweep _ now => some now
  | _ => none

/-- The time since the beginning of 1970 at an event that asks for it. -/
def Event.wallClock : Event → Duration
  | meet _ (.pass s) => s.wallClock
  | _ => 0

/-- Time goes on, and not beyond the horizon. -/
structure Within (h : Horizon) (events : List Event) : Prop where
  ordered : (events.filterMap Event.now?).Pairwise (· ≤ ·)
  last : ∀ e ∈ events, ∀ now, e.now? = some now → now ≤ h.last
  wallClock : ∀ e ∈ events, e.wallClock ≤ h.wallClock

/-- The guard under which a request waits. -/
def guard? (t : Traffic) (id : Nat) : Option Qos.Guard :=
  (t.pending? id).bind fun r => r.call?.bind (·.guard)

/-- The guard that is settled at an event. -/
def settles? (t : Traffic) : Event → Option Qos.Settlement
  | .meet id (.answer now a) => (t.guard? id).map fun guard => ⟨guard, a.isOk, now⟩
  | .meet id (.expire now) => (t.guard? id).map fun guard => ⟨guard, false, now⟩
  | .abandon id now => (t.guard? id).map fun guard => ⟨guard, false, now⟩
  | _ => none

/-- What is reckoned at an event. -/
inductive Reckons (t : Traffic) (e : Event) : Reckoning → Prop
  /-- The end of the window in which a request is counted. -/
  | window {c : RateLimit.Check} {k : Reckoning} :
      t.checks? e = some c →
      k ∈ t.gateway.limiter.reckonings c →
      Reckons t e k
  /-- The date of this end, for the caller. -/
  | advice {c : RateLimit.Check} {k : Reckoning} :
      t.checks? e = some c →
      k ∈ (t.gateway.limiter.ask c).2.reckonings c.policy e.wallClock →
      Reckons t e k
  /-- When an answer expires that is stored. -/
  | expiry {key : String} {w : Cache.Write} {k : Reckoning} :
      t.writes? e = some (key, w) →
      k ∈ w.reckonings t.gateway.cache key →
      Reckons t e k
  /-- The end of a break that begins when a call has failed. -/
  | breakEnd {s : Qos.Settlement} {k : Reckoning} :
      t.settles? e = some s →
      k ∈ s.reckonings t.gateway.breakers →
      Reckons t e k

/-- All that is reckoned in the course of events comes out. -/
def ReckonsInRange (h : Horizon) (t : Traffic) (events : List Event) : Prop :=
  ∀ k : Reckoning, t.Happened events (fun t e => t.Reckons e k) → k.InRange h.origin

variable {h : Horizon}
variable {config : Config.Gateway}
variable {g : Gateway}
variable {before later : List Event}
variable {e : Event}

section Past

/-- What was read at an earlier event is not later. -/
theorem Within.le_of_mem
    (hwithin : Within h (before ++ e :: later))
    {e' : Event}
    (he' : e' ∈ before)
    {now now' : Instant}
    (hnow : e.now? = some now)
    (hnow' : e'.now? = some now') :
    now' ≤ now := by
  have hordered := hwithin.ordered
  rw [List.filterMap_append, List.filterMap_cons_some hnow, List.pairwise_append] at hordered
  exact hordered.2.2 now' (List.mem_filterMap.2 ⟨e', he', hnow'⟩) now List.mem_cons_self

/-- A request is limited by the policy of a table that was in force. -/
theorem exists_table_of_checks?
    {Q : RouteTable → Prop}
    (htable : Q g.table)
    (hputs : ∀ e ∈ before, e.PutsOnly Q)
    {c : RateLimit.Check}
    (hc : ((Traffic.new g).after before).checks? e = some c) :
    e.now? = some c.time ∧
    ∃ (table : RouteTable) (request : Request) (found : ResolvedRoute),
      Q table ∧
      table.resolve request.method request.uri.path = .ok found ∧
      found.route.rateLimit = some c.policy ∧
      c.policy.isWhitelisted (c.policy.clientId request.headers) = false := by
  obtain ⟨id, s, x, rest, rfl, _, hr, hx⟩ := checks?_eq_some_iff.1 hc
  obtain ⟨found, p, hfound, hp, hlisted, rfl⟩ := Exchange.checks?_eq_some_iff.1 hx
  obtain ⟨table, hQ, hresolve⟩ :=
    exists_table_of_resolved htable hputs (pending?_eq_some_iff_run?.1 hr).1 hfound
  exact ⟨rfl, table, x.request, found, hQ, hresolve, hp, hlisted⟩

/-- Every counter has its window since an earlier event. -/
theorem exists_now?_of_counter
    (hg : Gateway.ofConfig config = .ok g)
    (hputs : ∀ e ∈ before,
      e.PutsOnly fun t => ∃ generation config, RouteTable.compile generation config = .ok t)
    {key : String}
    {w : RateLimit.Counter}
    (hw : ((Traffic.new g).after before).gateway.limiter.counters[key]? = some w) :
    ∃ e ∈ before, e.now? = some w.windowStart := by
  have hcompiled := Gateway.isCompiled_ofConfig hg
  have hasked : ∀ o, .check o ∈ (Traffic.new g).limiterHistory before →
      0 < o.policy.limit ∧ ∃ e ∈ before, e.now? = some o.time := by
    intro o ho
    obtain ⟨past, e, between, rfl, hc⟩ := happened_of_mem_limiterHistory ho
    obtain ⟨hnow, table, request, found, ⟨_, _, htable⟩, hresolve, hp, _⟩ :=
      exists_table_of_checks? hcompiled
        (fun e' he' => hputs e' (List.mem_append_left _ he')) hc
    exact ⟨(RouteTable.policy_of_compile htable (RouteTable.mem_of_resolve hresolve) hp).1,
      e, List.mem_append_right _ List.mem_cons_self, hnow⟩
  rw [limiter_after, new, Gateway.limiter_ofConfig hg] at hw
  obtain ⟨o, ho, _, hopened⟩ :=
    (RateLimit.left_of_after (fun o ho => (hasked o ho).1) hw).opened
  exact hopened.start ▸ (hasked o ho).2

/-- No breaker of a gateway opens for longer than can be configured. -/
theorem breaksWithin_after
    (hg : Gateway.ofConfig config = .ok g)
    (hputs : ∀ e ∈ before,
      e.PutsOnly fun t => ∃ generation config, RouteTable.compile generation config = .ok t) :
    ((Traffic.new g).after before).gateway.breakers.BreaksWithin
      BreakerSettings.longestBreak := by
  induction before using List.reverseRecOn with
  | nil =>
      obtain ⟨_, _, hg⟩ := bind_eq_ok.1 hg
      cases hg
      intro i b hb
      cases hb
  | append_singleton before e ih =>
      have hpast := fun e' he' => hputs e' (List.mem_append_left _ he')
      have hguarding := guarding_meet ((vouched_new g).after before) e
      rw [after_append_singleton]
      cases hforgets : ((Traffic.new g).after before).forgets e with
      | true =>
          rw [(hguarding.forgot hforgets).2]
          exact ih hpast
      | false =>
          refine (hguarding.used hforgets).breaksWithin (ih hpast) fun u hu => ?_
          obtain ⟨id, r, hr, huse⟩ := exists_useOf hu
          obtain ⟨found, hfound, hroute, hpolicy⟩ := Exchange.guarded?_eq_some huse.guarded
          obtain ⟨table, ⟨_, _, htable⟩, hresolve⟩ := exists_table_of_resolved
            (Gateway.isCompiled_ofConfig hg) hpast (pending?_eq_some_iff_run?.1 hr).1 hfound
          exact RouteTable.breakDuration_le_of_compile htable
            (hroute ▸ RouteTable.mem_of_resolve hresolve) hpolicy

end Past

/-- A guard is settled at an event of its own time. -/
theorem now?_of_settles?
    {t : Traffic}
    {s : Qos.Settlement}
    (hs : t.settles? e = some s) :
    e.now? = some s.time := by
  cases e with
  | meet id e =>
      cases e with
      | pass s => cases hs
      | answer now a =>
          obtain ⟨guard, _, rfl⟩ := Option.map_eq_some_iff.1 hs
          rfl
      | expire now =>
          obtain ⟨guard, _, rfl⟩ := Option.map_eq_some_iff.1 hs
          rfl
  | abandon id now =>
      obtain ⟨guard, _, rfl⟩ := Option.map_eq_some_iff.1 hs
      rfl
  | _ => cases hs

section Range

/-- Where the tables in force say nothing that is out of range, nothing is. -/
theorem reckonsInRange_of_limitsInTime
    (hg : Gateway.ofConfig config = .ok g)
    (hbreaks : h.OutlastsBreaks)
    (htable : g.table.InTime h)
    {events : List Event}
    (hwithin : Within h events)
    (hputs : ∀ e ∈ events, e.PutsOnly (RouteTable.InTime h)) :
    (Traffic.new g).ReckonsInRange h events := by
  rintro k ⟨before, e, later, rfl, hk⟩
  have hmem : e ∈ before ++ e :: later := List.mem_append_right _ List.mem_cons_self
  have hpast : ∀ e' ∈ before, e'.PutsOnly (RouteTable.InTime h) :=
    fun e' he' => hputs e' (List.mem_append_left _ he')
  have hcompiled : ∀ e' ∈ before, e'.PutsOnly fun t =>
      ∃ generation config, RouteTable.compile generation config = .ok t :=
    fun e' he' => (hpast e' he').mono fun _ hintime => hintime.compiled
  have hcheck : ∀ {c : RateLimit.Check}, ((Traffic.new g).after before).checks? e = some c →
      c.policy.FitsIn h ∧
      c.time ≤ h.last ∧
      ∀ w, ((Traffic.new g).after before).gateway.limiter.counters[c.key]? = some w →
        w.windowStart ≤ c.time := by
    intro c hc
    obtain ⟨hnow, table, request, found, hintime, hresolve, hp, hlisted⟩ :=
      exists_table_of_checks? htable hpast hc
    refine ⟨hintime.limits request found _ hresolve hp hlisted, hwithin.last e hmem _ hnow, ?_⟩
    intro w hw
    obtain ⟨e', he', hnow'⟩ := exists_now?_of_counter hg hcompiled hw
    exact hwithin.le_of_mem he' hnow hnow'
  cases hk with
  | window hc hk =>
      obtain ⟨hfits, htime, hstart⟩ := hcheck hc
      exact RateLimit.Limiter.inRange_of_mem_reckonings hfits htime hstart hk
  | advice hc hk =>
      obtain ⟨hfits, _, hstart⟩ := hcheck hc
      exact RateLimit.inRange_of_mem_advice hfits hstart (hwithin.wallClock e hmem) hk
  | expiry hw hk =>
      obtain ⟨id, s, x, rest, rfl, hr, hx⟩ := exists_of_writes?_eq_some hw
      obtain ⟨found, p, response, hfound, hp, _, _, _, rfl⟩ := Exchange.writes?_eq_some_iff.1 hx
      obtain ⟨table, hintime, hresolve⟩ :=
        exists_table_of_resolved htable hpast (pending?_eq_some_iff_run?.1 hr).1 hfound
      have hexpiry := hintime.keeps found.route (RouteTable.mem_of_resolve hresolve) p hp
      rw [Cache.Write.eq_of_mem_reckonings hk]
      exact hexpiry.mono (.instant (Nat.add_le_add_right (hwithin.last _ hmem s.now rfl) p.ttl))
  | @breakEnd s _ hs hk =>
      obtain ⟨b, hb, rfl⟩ := Qos.Settlement.exists_of_mem_reckonings hk
      have htime := hwithin.last e hmem s.time (now?_of_settles? hs)
      have hlength := breaksWithin_after hg hcompiled _ b hb
      exact hbreaks.mono (.instant (Nat.add_le_add htime hlength))

/-- A request that comes at the last instant and is limited. -/
def lastRequest (h : Horizon) (request : Request) : List Event :=
  .arrive request ⟨.v4 127 0 0 1, 4000⟩ "" h.last ::
    List.replicate 2 (.meet 0 (.pass { now := h.last, wallClock := h.wallClock }))

/-- A request that has just found its route. -/
theorem exists_after_resolved
    {request : Request}
    {found : ResolvedRoute}
    (hresolve : g.table.resolve request.method request.uri.path = .ok found)
    (s : Surroundings) :
    ∃ x rest,
      (Traffic.new g).after
          [.arrive request ⟨.v4 127 0 0 1, 4000⟩ "" s.now, .meet 0 (.pass s)] =
        ⟨g, [some ⟨x, .passing (.rateLimit :: rest)⟩], fun _ => none⟩ ∧
      x.request = request ∧
      x.resolved = some found := by
  let x : Exchange :=
    { request, peer := ⟨.v4 127 0 0 1, 4000⟩, requestId := "", start := s.now }
  rcases Stage.resolveRoute_cases g x with ⟨e, herror, _⟩ | ⟨r, hr, hpass⟩
  · cases hresolve.symm.trans herror
  · obtain rfl : found = r := Except.ok.inj (hresolve.symm.trans hr)
    let sent := found.route.requestIdKey.bind request.headers.text?
    refine ⟨{ x with resolved := some found, requestId := sent.getD x.requestId },
      Stage.standard.drop 2, ?_, rfl, rfl⟩
    show Traffic.put _ 0 (Run.after s.now (Stage.standard.drop 1) (Stage.resolveRoute g x)) = _
    rw [hpass]
    rfl

theorem within_lastRequest (h : Horizon) (request : Request) :
    Within h (lastRequest h request) := by
  refine ⟨?_, ?_, ?_⟩ <;> simp [lastRequest, Event.now?, Event.wallClock]

theorem putsOnly_lastRequest
    {Q : RouteTable → Prop}
    {request : Request} :
    ∀ e ∈ lastRequest h request, e.PutsOnly Q := by
  simp [lastRequest, Event.PutsOnly]

/-- If all comes out that is reckoned for the last request, the policy of its caller fits. -/
theorem fitsIn_of_lastRequest
    (hg : Gateway.ofConfig config = .ok g)
    {request : Request}
    {found : ResolvedRoute}
    {p : RateLimit.Policy}
    (hresolve : g.table.resolve request.method request.uri.path = .ok found)
    (hp : found.route.rateLimit = some p)
    (hlisted : p.isWhitelisted (p.clientId request.headers) = false)
    (hrange : (Traffic.new g).ReckonsInRange h (lastRequest h request)) :
    p.FitsIn h := by
  obtain ⟨_, _, htable⟩ := Gateway.isCompiled_ofConfig hg
  have hlimit := (RouteTable.policy_of_compile htable (RouteTable.mem_of_resolve hresolve) hp).1
  let s : Surroundings := { now := h.last, wallClock := h.wallClock }
  let c : RateLimit.Check := ⟨⟨p, found.route.key, p.clientId request.headers⟩, h.last⟩
  let arrived : List Event := [.arrive request ⟨.v4 127 0 0 1, 4000⟩ "" h.last, .meet 0 (.pass s)]
  obtain ⟨x, rest, hafter, hrequest, hresolved⟩ :
      ∃ x rest,
        (Traffic.new g).after arrived =
          ⟨g, [some ⟨x, .passing (.rateLimit :: rest)⟩], fun _ => none⟩ ∧
        x.request = request ∧
        x.resolved = some found :=
    exists_after_resolved hresolve s
  have hc : ((Traffic.new g).after arrived).checks? (.meet 0 (.pass s)) = some c := by
    rw [hafter]
    refine checks?_eq_some_iff.2 ⟨0, s, x, rest, rfl, rfl, rfl, ?_⟩
    exact Exchange.checks?_eq_some_iff.2 ⟨found, p, hresolved, hp, hrequest ▸ hlisted,
      hrequest ▸ rfl⟩
  refine RateLimit.fitsIn_of_inRange (c := c) (l := g.limiter) rfl ?_ hlimit fun k hk => ?_
  · rw [Gateway.limiter_ofConfig hg]
    exact Std.ExtTreeMap.getElem?_empty
  · refine hrange k ⟨arrived, .meet 0 (.pass s), [], rfl, ?_⟩
    have hgateway : ((Traffic.new g).after arrived).gateway = g := by rw [hafter]
    rcases List.mem_append.1 hk with hk | hk
    · exact .window hc (by rw [hgateway]; exact hk)
    · exact .advice hc (by rw [hgateway]; exact hk)

end Range

/--
Take a gateway for which all breaks that can be configured end in time, and whose first table has no
answers stored for too long. Then all that it ever reckons comes out, whatever happens until the
horizon and whatever tables of this kind are put in force, if and only if the windows of all callers
that are limited fit, by the table with which it starts.
-/
theorem reckonsInRange_iff
    (hg : Gateway.ofConfig config = .ok g)
    (hbreaks : h.OutlastsBreaks)
    (hkeeps : g.table.KeepsInTime h) :
    (∀ events, Within h events → (∀ e ∈ events, e.PutsOnly (RouteTable.InTime h)) →
      (Traffic.new g).ReckonsInRange h events) ↔
    g.table.LimitsInTime h := by
  constructor
  · intro hrange request found p hresolve hp hlisted
    exact fitsIn_of_lastRequest hg hresolve hp hlisted
      (hrange _ (within_lastRequest h request) putsOnly_lastRequest)
  · intro hlimits events hwithin hputs
    exact reckonsInRange_of_limitsInTime hg hbreaks
      ⟨Gateway.isCompiled_ofConfig hg, hlimits, hkeeps⟩ hwithin hputs

section Periods

/-- Windows of an hour, and answers that are kept for a minute. -/
def hourly : Config.Gateway where
  routes := [{
    upstreamPathTemplate := "/a"
    downstreamPathTemplate := "/one"
    downstreamHosts := [⟨"h", 1⟩]
    cache := some { ttlSeconds := 60 }
    rateLimit := some { limit := 1, period := "1h" } }]

/-- Windows that are too long to be noted in microseconds by a little. -/
def everlasting : Config.Gateway where
  global := { rateLimit := { disableHeaders := true } }
  routes := [{
    upstreamPathTemplate := "/a"
    downstreamPathTemplate := "/one"
    downstreamHosts := [⟨"h", 1⟩]
    rateLimit := some { limit := 1, period := "18446744073709s 551616us" } }]

/-- A gateway that goes on for a year from the beginning of 2026. -/
def oneYear : Horizon where
  origin := Duration.ofSecs 86400
  last := Duration.ofSecs 31536000
  wallClock := Duration.ofSecs 1798761600

/-- Both are accepted. With the one all comes out for a year, and with the other it does not. -/
theorem reckonsInRange_iff_periods :
    hourly.validate = .ok () ∧
    everlasting.validate = .ok () ∧
    oneYear.OutlastsBreaks ∧
    (∃ g,
      Gateway.ofConfig hourly = .ok g ∧
      g.table.KeepsInTime oneYear ∧
      ∀ events, Within oneYear events →
        (∀ e ∈ events, e.PutsOnly (RouteTable.InTime oneYear)) →
        (Traffic.new g).ReckonsInRange oneYear events) ∧
    ∃ g,
      Gateway.ofConfig everlasting = .ok g ∧
      g.table.KeepsInTime oneYear ∧
      ∃ events, Within oneYear events ∧
        (∀ e ∈ events, e.PutsOnly (RouteTable.InTime oneYear)) ∧
        ¬ (Traffic.new g).ReckonsInRange oneYear events := by
  have hchecked :
      hourly.validate.toOption.map id = some () ∧
        everlasting.validate.toOption.map id = some () := by
    decide +kernel
  obtain ⟨_, hhourly, _⟩ := exists_eq_ok_of_map hchecked.1
  obtain ⟨_, heverlasting, _⟩ := exists_eq_ok_of_map hchecked.2
  have hfits :
      (Gateway.ofConfig hourly).toOption.map (fun g =>
        decide (∀ r ∈ g.table.routes, (∀ p ∈ r.rateLimit, p.FitsIn oneYear) ∧
          ∀ p ∈ r.cache, (Reckoning.instant (oneYear.last + p.ttl)).InRange oneYear.origin)) =
      some true := by
    decide +kernel
  have hlong :
      (Gateway.ofConfig everlasting).toOption.map (fun g =>
        (decide (∀ r ∈ g.table.routes, r.cache = none),
          (g.table.resolve .get "/a").toOption.map fun found =>
            found.route.rateLimit.map fun p =>
              (p.isWhitelisted (p.clientId {}), decide (p.FitsIn oneYear)))) =
      some (true, some (some (false, false))) := by
    decide +kernel
  have hbreaks : oneYear.OutlastsBreaks := by
    unfold Horizon.OutlastsBreaks
    decide +kernel
  refine ⟨hhourly, heverlasting, hbreaks, ?_, ?_⟩
  · obtain ⟨g, hg, hfits⟩ := exists_eq_ok_of_map hfits
    have hroutes := of_decide_eq_true hfits
    have hkeeps : g.table.KeepsInTime oneYear := fun r hr => (hroutes r hr).2
    refine ⟨g, hg, hkeeps, (reckonsInRange_iff hg hbreaks hkeeps).2 ?_⟩
    exact fun request found p hresolve hp _ =>
      (hroutes found.route (RouteTable.mem_of_resolve hresolve)).1 p hp
  · obtain ⟨g, hg, hlong⟩ := exists_eq_ok_of_map hlong
    obtain ⟨hcaches, hlong⟩ := Prod.mk.inj hlong
    obtain ⟨found, hresolve, hlong⟩ := exists_eq_ok_of_map hlong
    obtain ⟨p, hp, hlong⟩ := Option.map_eq_some_iff.1 hlong
    obtain ⟨hlisted, hlong⟩ := Prod.mk.inj hlong
    have hkeeps : g.table.KeepsInTime oneYear := by
      intro r hr p hp
      rw [of_decide_eq_true hcaches r hr] at hp
      cases hp
    have hnot : ¬ g.table.LimitsInTime oneYear := fun hlimits =>
      of_decide_eq_false hlong
        (hlimits ⟨.get, ⟨none, none, some ⟨"/a", none⟩⟩, {}, []⟩ found p hresolve hp hlisted)
    have hfails := mt (reckonsInRange_iff hg hbreaks hkeeps).1 hnot
    simp only [not_forall] at hfails
    obtain ⟨events, hwithin, hputs, hfails⟩ := hfails
    exact ⟨g, hg, hkeeps, events, hwithin, hputs, hfails⟩

end Periods

end Traffic
end ApiGateway
