import ApiGateway.Proofs.RateLimit.Attempt
import ApiGateway.Proofs.Route.Compilation
import ApiGateway.Proofs.Run.Frames
import ApiGateway.Proofs.Run.History

/-!
# Requests that are turned away

A request that has no route, whose caller has used up its quota, is not known or has not the claims
that are required, and a request that the cache answers, go no further than the entry: the stages
in front of the first one that has to do with a backend. Such a run calls nobody and takes nothing,
and of what all requests share it changes at most the counter of its own caller on its own route.

The proof follows a run through the entry. `Run.Entering` says what holds between two stages of it,
in terms of the gateway that the run has met at its start.
-/

namespace ApiGateway

/-- The name of the counter that the caller of an exchange has on its route. -/
def Exchange.counterKey? (x : Exchange) : Option String :=
  x.resolved.bind fun r =>
    r.route.rateLimit.map fun p =>
      RateLimit.counterKey p r.route.key (p.clientId x.request.headers)

namespace Stage

section Counters

variable (s : Surroundings)
variable (g : Gateway)
variable (x : Exchange)

/-- The rate limiter is asked about the counter of the caller, and changes no other. -/
theorem counters_limitRate
    {key : String}
    (h : (limitRate s g x).gateway.limiter.counters[key]? ≠ g.limiter.counters[key]?) :
    x.counterKey? = some key := by
  rcases limitRate_cases s g x with
    ⟨_, hl⟩ | ⟨r, _, _, hl⟩ | ⟨r, p, l, d, hx, hp, _, hc, hl⟩
  · rw [hl] at h
    exact absurd rfl h
  · rw [hl] at h
    exact absurd rfl h
  · have hlimiter : (limitRate s g x).gateway.limiter = l := by
      rcases hl with ⟨_, hl⟩ | ⟨_, hl⟩ <;> rw [hl] <;> rfl
    have hkey : x.counterKey? =
        some (RateLimit.counterKey p r.route.key (p.clientId x.request.headers)) := by
      simp only [Exchange.counterKey?, hx, hp, Option.bind_some, Option.map_some]
    rw [hkey]
    by_cases heq : key = RateLimit.counterKey p r.route.key (p.clientId x.request.headers)
    · rw [heq]
    · have hframe := g.limiter.getElem?_check_of_ne p r.route.key
        (p.clientId x.request.headers) s.now heq
      rw [hc] at hframe
      rw [hlimiter] at h
      exact absurd hframe h

/-- A caller that is denied leaves the rate limiter as it is. -/
theorem limiter_limitRate_of_denied
    (hlimit : ∀ r p, x.resolved = some r → r.route.rateLimit = some p → 0 < p.limit)
    (h : (limitRate s g x).verdict ≠ .proceed) :
    (limitRate s g x).gateway.limiter = g.limiter := by
  rcases limitRate_cases s g x with
    ⟨_, hl⟩ | ⟨r, _, _, hl⟩ | ⟨r, p, l, d, hx, hp, _, hc, ⟨_, hl⟩ | ⟨hd, hl⟩⟩
  · rw [hl]
    rfl
  · rw [hl]
    rfl
  · rw [hl] at h
    exact absurd rfl h
  · have hdenied := g.limiter.check_of_denied p r.route.key (p.clientId x.request.headers) s.now
      (hlimit r p hx hp)
    rw [hc] at hdenied
    rw [hl]
    exact hdenied hd

end Counters

/-- No stage of the entry comes twice. -/
theorem not_mem_of_suffix_entry
    {stage : Stage}
    {ahead : List Stage}
    (h : stage :: ahead <:+ entry) :
    stage ∉ ahead :=
  have hnodup : entry.Nodup := by decide
  (List.nodup_cons.1 (hnodup.sublist h.sublist)).1

/-- The quota is asked for after the route. -/
theorem rateLimit_mem_of_suffix_entry
    {ahead : List Stage}
    (h : routeResolution :: ahead <:+ entry) :
    rateLimit ∈ ahead := by
  rcases List.suffix_cons_iff.1 h with h | h
  · cases h
    decide
  · exact absurd (h.mem List.mem_cons_self) (by decide)

end Stage

namespace Run

open Stage

/-- The stage that a run passes at an event, with what it leaves behind. -/
def passage? (g : Gateway) (r : Run) : Event → Option (Stage × Passage)
  | .pass s =>
      match r.phase with
      | .passing (stage :: _) => some (stage, stage.pass s g r.exchange)
      | _ => none
  | _ => none

/-- The stages that a run alone passes, each with what it leaves behind. -/
def passages (g : Gateway) (r : Run) : List Event → List (Stage × Passage)
  | [] => []
  | e :: es => (r.passage? g e).toList ++ passages (r.meet g e).1 (r.meet g e).2 es

/-- A run between two stages of the entry, and the gateway that it met at its start. -/
structure Entering (g₀ g : Gateway) (r : Run) (ahead : List Stage) : Prop where
  phase : r.phase = .passing (ahead ++ service)
  suffix : ahead <:+ entry
  untouched : g₀.Untouched g
  idle : r.exchange.lease = none
  silent : r.exchange.backendCalls = []
  known : ∀ found, r.exchange.resolved = some found → found.route ∈ g₀.table.routes
  limiter : .rateLimit ∈ ahead → g.limiter = g₀.limiter
  counters : ∀ key, g.limiter.counters[key]? ≠ g₀.limiter.counters[key]? →
    r.exchange.counterKey? = some key

/-- What holds when a run that was turned away at a stage is over. -/
structure TurnedAway (g₀ : Gateway) (stage : Stage) (g : Gateway) (r : Run) : Prop where
  ended : r.isOver = true
  noCall : r.exchange.backendCalls = []
  noLease : r.exchange.lease = none
  cache : g.cache = g₀.cache
  balancers : g.balancers = g₀.balancers
  breakers : g.breakers = g₀.breakers
  /-- Neither a request without a route nor one without quota is counted. -/
  limiter : stage = .routeResolution ∨ stage = .rateLimit → g.limiter = g₀.limiter
  /-- No counter changes but the one of this caller on this route. -/
  counters : ∀ key, g.limiter.counters[key]? ≠ g₀.limiter.counters[key]? →
    r.exchange.counterKey? = some key

section Way

variable {g₀ g : Gateway}
variable {r : Run}
variable {stage : Stage}
variable {ahead : List Stage}

/-- Every run starts in front of the entry. -/
theorem entering_start
    (g : Gateway)
    (request : Request)
    (peer : SocketAddress)
    (requestId : String)
    (now : Instant) :
    Entering g g (start request peer requestId now) entry := by
  have hphase := congrArg Phase.passing standard_eq
  refine ⟨hphase, List.suffix_refl _, .refl g, rfl, rfl, ?_, fun _ => rfl, ?_⟩
  · intro found h
    cases h
  · intro key h
    exact absurd rfl h

/-- The counters after a stage of the entry. -/
theorem Entering.counters_pass
    (h : Entering g₀ g r (stage :: ahead))
    (s : Surroundings)
    (key : String)
    (hkey : (stage.pass s g r.exchange).gateway.limiter.counters[key]? ≠
      g₀.limiter.counters[key]?) :
    (stage.pass s g r.exchange).exchange.counterKey? = some key := by
  have hframe := entryFrame_pass s g r.exchange (h.suffix.mem List.mem_cons_self)
  have hsame : stage ≠ .routeResolution →
      (stage.pass s g r.exchange).exchange.counterKey? = r.exchange.counterKey? := by
    intro hne
    unfold Exchange.counterKey?
    rw [hframe.resolved hne, hframe.request]
  by_cases hlimit : stage = .rateLimit
  · subst hlimit
    rw [hsame (by decide)]
    rw [← h.limiter List.mem_cons_self] at hkey
    exact counters_limitRate s g r.exchange hkey
  · rw [hframe.limiter hlimit] at hkey
    by_cases hroute : stage = .routeResolution
    · -- The route may change here, but nothing was counted yet.
      subst hroute
      have hmem := rateLimit_mem_of_suffix_entry h.suffix
      rw [h.limiter (List.mem_cons_of_mem _ hmem)] at hkey
      exact absurd rfl hkey
    · rw [hsame hroute]
      exact h.counters key hkey

/-- A run that proceeds is still entering. -/
theorem Entering.proceed
    (h : Entering g₀ g r (stage :: ahead))
    (s : Surroundings) :
    Entering g₀ (stage.pass s g r.exchange).gateway
      ⟨(stage.pass s g r.exchange).exchange, .passing (ahead ++ service)⟩ ahead := by
  have hmem := h.suffix.mem List.mem_cons_self
  have hframe := entryFrame_pass s g r.exchange hmem
  refine ⟨rfl, (List.suffix_cons _ _).trans h.suffix, h.untouched.trans hframe.untouched,
    hframe.lease.trans h.idle, ?_, ?_, ?_, fun key => h.counters_pass s key⟩
  · have hne : stage ≠ .backendCall := by
      rintro rfl
      exact absurd hmem (by decide)
    exact (backendCalls_pass s g r.exchange hne).trans h.silent
  · intro found hfound
    by_cases hroute : stage = .routeResolution
    · subst hroute
      simp only [Stage.pass] at hfound
      rcases resolveRoute_cases g r.exchange with ⟨e, _, hr⟩ | ⟨found', hresolve, hr⟩
      · rw [hr] at hfound
        exact h.known found hfound
      · rw [hr] at hfound
        cases hfound
        rw [← h.untouched.table]
        exact RouteTable.mem_of_resolve hresolve
    · exact h.known found ((hframe.resolved hroute).symm.trans hfound)
  · intro hahead
    have hlimit : stage ≠ .rateLimit := by
      rintro rfl
      exact not_mem_of_suffix_entry h.suffix hahead
    exact (hframe.limiter hlimit).trans (h.limiter (List.mem_cons_of_mem _ hahead))

/-- The limiter when a run is turned away by the first two stages. -/
theorem Entering.limiter_turnedAway
    (h : Entering g₀ g r (stage :: ahead))
    (hg : g₀.IsCompiled)
    (s : Surroundings)
    (hverdict : (stage.pass s g r.exchange).verdict ≠ .proceed)
    (hstage : stage = .routeResolution ∨ stage = .rateLimit) :
    (stage.pass s g r.exchange).gateway.limiter = g₀.limiter := by
  rcases hstage with rfl | rfl
  · have hframe := entryFrame_resolveRoute g r.exchange
    have hmem := rateLimit_mem_of_suffix_entry h.suffix
    exact (hframe.limiter (by decide)).trans (h.limiter (List.mem_cons_of_mem _ hmem))
  · have hlimit : ∀ found p, r.exchange.resolved = some found →
        found.route.rateLimit = some p → 0 < p.limit :=
      fun found p hfound hp => Gateway.limit_pos hg (h.known found hfound) hp
    exact (limiter_limitRate_of_denied s g r.exchange hlimit hverdict).trans
      (h.limiter List.mem_cons_self)

/-- A run that does not proceed is over, and has left everything as it should. -/
theorem Entering.turnedAway
    (h : Entering g₀ g r (stage :: ahead))
    (hg : g₀.IsCompiled)
    (s : Surroundings)
    (hverdict : (stage.pass s g r.exchange).verdict ≠ .proceed) :
    TurnedAway g₀ stage (r.meet g (.pass s)).1 (r.meet g (.pass s)).2 := by
  have hmem := h.suffix.mem List.mem_cons_self
  have hframe := entryFrame_pass s g r.exchange hmem
  have hnext := h.proceed s
  have hmeet : r.meet g (.pass s) = after s.now (ahead ++ service) (stage.pass s g r.exchange) := by
    simp only [meet, step, h.phase, List.cons_append]
  -- A run is closed in the same way after a response and after a refusal.
  have hclosed : ∀ x : Exchange,
      x.lease = none → x.backendCalls = [] →
      x.counterKey? = (stage.pass s g r.exchange).exchange.counterKey? →
      TurnedAway g₀ stage (close s.now (stage.pass s g r.exchange).gateway x).1
        (close s.now (stage.pass s g r.exchange).gateway x).2 := by
    intro x hlease hcalls hkey
    unfold close
    rw [hlease]
    exact
      { ended := rfl
        noCall := hcalls
        noLease := rfl
        cache := hnext.untouched.cache
        balancers := hnext.untouched.balancers
        breakers := hnext.untouched.breakers
        limiter := h.limiter_turnedAway hg s hverdict
        counters := fun key hchanged => hkey.trans (h.counters_pass s key hchanged) }
  rw [hmeet]
  rcases after_cases s.now (ahead ++ service) (stage.pass s g r.exchange) with
    ⟨hv, _⟩ | ⟨c, hv, _⟩ | ⟨_, ha⟩ | ⟨e, _, ha⟩
  · exact absurd hv hverdict
  · exact absurd hv (hframe.answers c)
  · rw [ha]
    exact hclosed _ hnext.idle hnext.silent rfl
  · rw [ha]
    exact hclosed _ hnext.idle hnext.silent rfl

/-- A run that is over stays as it is. -/
theorem meet_of_isOver
    (h : r.isOver = true)
    (e : Event) :
    r.meet g e = (g, r) := by
  obtain ⟨x, phase⟩ := r
  cases phase with
  | passing rest => cases h
  | calling c rest => cases h
  | ended response => cases e <;> rfl

theorem alone_of_isOver
    (h : r.isOver = true)
    (events : List Event) :
    r.alone g events = (g, r) := by
  induction events with
  | nil => rfl
  | cons e es ih => rw [alone, meet_of_isOver h, ih]

theorem passages_of_isOver
    (h : r.isOver = true)
    (events : List Event) :
    r.passages g events = [] := by
  induction events with
  | nil => rfl
  | cons e es ih =>
      have hnone : r.passage? g e = none := by
        obtain ⟨x, phase⟩ := r
        cases phase with
        | passing rest => cases h
        | calling c rest => cases h
        | ended response => cases e <;> rfl
      rw [passages, hnone, meet_of_isOver h, ih]
      rfl

/-- The stages that are left after an event were left before it. -/
theorem remaining_meet_suffix
    (e : Event) :
    (r.meet g e).2.remaining <:+ r.remaining := by
  obtain ⟨x, phase⟩ := r
  cases phase with
  | passing rest =>
      cases e with
      | pass s =>
          cases rest with
          | nil => exact List.suffix_refl _
          | cons stage rest => exact (remaining_after _ _ _).trans (List.suffix_cons _ _)
      | answer now a => exact List.suffix_refl _
      | expire now => exact List.suffix_refl _
  | calling c rest =>
      cases e with
      | pass s => exact List.suffix_refl _
      | answer now a => exact remaining_after _ _ _
      | expire now => exact remaining_after _ _ _
  | ended response => cases e <;> exact List.suffix_refl _

/-- A run passes only stages that it has before it. -/
theorem mem_remaining_of_mem_passages
    {events : List Event}
    {q : Stage × Passage}
    (h : q ∈ r.passages g events) :
    q.1 ∈ r.remaining := by
  induction events generalizing g r with
  | nil => cases h
  | cons e es ih =>
      rcases List.mem_append.1 h with h | h
      · obtain ⟨x, phase⟩ := r
        cases e with
        | pass s =>
            cases phase with
            | passing rest =>
                cases rest with
                | nil => cases h
                | cons stage rest =>
                    rw [List.mem_singleton.1 h]
                    exact List.mem_cons_self
            | calling c rest => cases h
            | ended response => cases h
        | answer now a => cases h
        | expire now => cases h
      · exact (remaining_meet_suffix e).mem (ih h)

/-- What an event does to a run in the entry. -/
theorem Entering.meet_cases
    (h : Entering g₀ g r (stage :: ahead))
    (hg : g₀.IsCompiled)
    (e : Event) :
    (r.passage? g e = none ∧ r.meet g e = (g, r)) ∨
    (∃ p,
      r.passage? g e = some (stage, p) ∧
      p.verdict = .proceed ∧
      Entering g₀ (r.meet g e).1 (r.meet g e).2 ahead) ∨
    (∃ p,
      r.passage? g e = some (stage, p) ∧
      p.verdict ≠ .proceed ∧
      TurnedAway g₀ stage (r.meet g e).1 (r.meet g e).2) := by
  cases e with
  | pass s =>
      refine Or.inr ?_
      have hpassage : r.passage? g (.pass s) = some (stage, stage.pass s g r.exchange) := by
        simp only [passage?, h.phase, List.cons_append]
      by_cases hv : (stage.pass s g r.exchange).verdict = .proceed
      · have hmeet : r.meet g (.pass s) =
            ((stage.pass s g r.exchange).gateway,
              ⟨(stage.pass s g r.exchange).exchange, .passing (ahead ++ service)⟩) := by
          simp only [meet, step, h.phase, List.cons_append, after, hv]
        refine Or.inl ⟨_, hpassage, hv, ?_⟩
        rw [hmeet]
        exact h.proceed s
      · exact Or.inr ⟨_, hpassage, hv, h.turnedAway hg s hv⟩
  | answer now a => exact Or.inl ⟨rfl, by simp only [meet, answer, h.phase]⟩
  | expire now => exact Or.inl ⟨rfl, by simp only [meet, expire, h.phase]⟩

/-- A run that is turned away on its way through the entry passes no other stage. -/
theorem Entering.turnedAway_alone
    (h : Entering g₀ g r ahead)
    (hg : g₀.IsCompiled)
    {events : List Event}
    {p : Passage}
    (hp : (stage, p) ∈ r.passages g events)
    (hstage : stage ∈ entry)
    (hverdict : p.verdict ≠ .proceed) :
    TurnedAway g₀ stage (r.alone g events).1 (r.alone g events).2 ∧
      ∀ q, q ∈ r.passages g events → q.1 ∈ entry := by
  induction events generalizing g r ahead with
  | nil => cases hp
  | cons e es ih =>
      cases ahead with
      | nil =>
          -- Past the entry, none of its stages is left.
          have hmem := mem_remaining_of_mem_passages hp
          simp only [remaining, h.phase, List.nil_append] at hmem
          exact absurd hmem ((by decide : ∀ t ∈ entry, t ∉ service) stage hstage)
      | cons next ahead =>
          have hnext : next ∈ entry := h.suffix.mem List.mem_cons_self
          rw [passages] at hp ⊢
          rw [alone]
          rcases h.meet_cases hg e with
            ⟨hnone, hmeet⟩ | ⟨q, hsome, hv, hentering⟩ | ⟨q, hsome, _, hend⟩
          · rw [hnone, hmeet] at hp ⊢
            exact ih h hp
          · rw [hsome] at hp ⊢
            rcases List.mem_append.1 hp with hp | hp
            · cases List.mem_singleton.1 hp
              exact absurd hv hverdict
            · obtain ⟨hend, hrest⟩ := ih hentering hp
              refine ⟨hend, fun t ht => ?_⟩
              rcases List.mem_append.1 ht with ht | ht
              · rw [List.mem_singleton.1 ht]
                exact hnext
              · exact hrest t ht
          · rw [hsome, passages_of_isOver hend.ended, List.append_nil] at hp ⊢
            rw [alone_of_isOver hend.ended]
            cases List.mem_singleton.1 hp
            refine ⟨hend, fun t ht => ?_⟩
            rw [List.mem_singleton.1 ht]
            exact hnext

end Way

/--
A standard run calls the backend at most once, whatever others do meanwhile. If a stage of the
entry refuses the request or answers it, the run ends there: it has called nobody, passed no other
stage, and changed nothing but, at most, the counter of its caller.
-/
theorem standard_calls_and_frame
    (g : Gateway)
    (hg : g.IsCompiled)
    (request : Request)
    (peer : SocketAddress)
    (requestId : String)
    (now : Instant) :
    (∀ turns : List (Gateway × Event),
      ((start request peer requestId now).among turns).exchange.backendCalls.length ≤ 1) ∧
    ∀ (events : List Event) (stage : Stage) (p : Passage),
      (stage, p) ∈ (start request peer requestId now).passages g events →
      stage ∈ entry →
      p.verdict ≠ .proceed →
      TurnedAway g stage
        ((start request peer requestId now).alone g events).1
        ((start request peer requestId now).alone g events).2 ∧
      ∀ q, q ∈ (start request peer requestId now).passages g events → q.1 ∈ entry := by
  refine ⟨fun turns => ?_, fun events stage p hp hstage hverdict => ?_⟩
  · have h := backendCalls_among_le (start request peer requestId now) turns
    have hstart : (start request peer requestId now).exchange.backendCalls.length
        + (start request peer requestId now).remaining.count .backendCall = 1 := rfl
    omega
  · exact (entering_start g request peer requestId now).turnedAway_alone hg hp hstage hverdict

section Denial

/-- A configuration with one route, which takes every caller once in an hour. -/
def oncePerHour : Config.Gateway where
  routes := [{
    upstreamPathTemplate := "/a"
    downstreamPathTemplate := "/a"
    downstreamHosts := [⟨"backend", 80⟩]
    rateLimit := some { period := "1h", limit := 1 } }]

/-- A gateway for this configuration, at which an unnamed caller has been already. -/
def visitedOnce : Gateway :=
  let limiter : RateLimit.Limiter :=
    ⟨(∅ : Std.ExtTreeMap String RateLimit.Counter compare).insert "sluice:*|/a:anonymous"
      (.mk 0 1 3600000000)⟩
  match Gateway.ofConfig oncePerHour with
  | .ok g => { g with limiter }
  | .error _ =>
      { config := {}, table := {}, balancers := { directory := .ofConfig none },
        nextGeneration := 0 }

theorem isCompiled_visitedOnce : visitedOnce.IsCompiled := by
  unfold visitedOnce
  cases h : Gateway.ofConfig oncePerHour with
  | error e => exact ⟨0, {}, rfl⟩
  | ok g =>
      have hg := Gateway.isCompiled_ofConfig h
      exact hg

/-- The request of the caller that has been there already, one second later. -/
def secondVisit : Run :=
  start ⟨.get, ⟨none, none, some ⟨"/a", none⟩⟩, {}, []⟩ ⟨.v4 127 0 0 1, 4000⟩ "" 1000000000

/-- The way to the rate limiter. -/
def toTheLimiter : List Event :=
  [.pass { now := 1000000000 }, .pass { now := 1000000001 }]

/-- The caller is denied, and the gateway is as before. -/
theorem standard_calls_and_frame_denied :
    visitedOnce.IsCompiled ∧
    ∃ p,
      (Stage.rateLimit, p) ∈ secondVisit.passages visitedOnce toTheLimiter ∧
      p.verdict ≠ .proceed ∧
      (secondVisit.alone visitedOnce toTheLimiter).1.limiter = visitedOnce.limiter ∧
      (secondVisit.alone visitedOnce toTheLimiter).2.isOver = true := by
  have hlog :
      (secondVisit.passages visitedOnce toTheLimiter).map
          (fun q => (q.1, match q.2.verdict with | .refuse _ => true | _ => false)) =
        [(.routeResolution, false), (.rateLimit, true)] := by
    decide +kernel
  have hmem : (Stage.rateLimit, true) ∈
      (secondVisit.passages visitedOnce toTheLimiter).map
        (fun q => (q.1, match q.2.verdict with | .refuse _ => true | _ => false)) := by
    rw [hlog]
    decide
  obtain ⟨⟨stage, p⟩, hp, hq⟩ := List.mem_map.1 hmem
  obtain ⟨rfl, hrefused⟩ := Prod.mk.inj hq
  have hverdict : p.verdict ≠ .proceed := by
    intro h
    rw [h] at hrefused
    cases hrefused
  obtain ⟨hend, _⟩ := (standard_calls_and_frame visitedOnce isCompiled_visitedOnce _ _ _ _).2
    toTheLimiter .rateLimit p hp (by decide) hverdict
  exact ⟨isCompiled_visitedOnce, p, hp, hverdict, hend.limiter (Or.inr rfl), hend.ended⟩

end Denial

end Run
end ApiGateway
