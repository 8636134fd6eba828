import ApiGateway.Proofs.Run.LimiterUse
import ApiGateway.Proofs.Traffic.Runs

/-!
# Use of the rate limiter in traffic

However requests, sweeps and new configurations take turns, the rate limiter meets checks and sweeps
one after another (`limiter_after`), and each check is what a request asks that is about to be
limited.
-/

namespace ApiGateway

/-- A new gateway has no counters. -/
theorem Gateway.limiter_ofConfig
    {config : Config.Gateway}
    {g : Gateway}
    (hg : Gateway.ofConfig config = .ok g) :
    g.limiter = {} := by
  obtain ⟨_, _, hg⟩ := bind_eq_ok.1 hg
  cases hg
  rfl

namespace Traffic

/-- What a run asks the rate limiter, unless the registry was asked for its lease. -/
def checksOf (t : Traffic) (id : Nat) (r : Run) (e : Run.Event) : Option RateLimit.Check :=
  match e, t.begun id with
  | .pass _, some _ => none
  | e, _ => r.checksAt? e

/-- What the requests ask the rate limiter at an event. -/
def checks? (t : Traffic) : Event → Option RateLimit.Check
  | .meet id e => (t.pending? id).bind fun r => t.checksOf id r e
  | _ => none

/-- When an event sweeps the counters, if it does. -/
def Event.sweeps? : Event → Option Instant
  | .sweep before now =>
      if Gateway.passes RateLimit.sweepInterval before now then some now else none
  | _ => none

/-- What the rate limiter meets at an event. -/
def limits (t : Traffic) (e : Event) : List RateLimit.Event :=
  (t.checks? e).toList.map .check ++ e.sweeps?.toList.map .sweep

/-- What the rate limiter meets in the course of events. -/
def limiterHistory (t : Traffic) : List Event → List RateLimit.Event
  | [] => []
  | e :: es => t.limits e ++ (t.meet e).limiterHistory es

variable {t : Traffic}

/-- Whatever is asked is what a request asks that is about to be limited. -/
theorem checks?_eq_some_iff
    {e : Event}
    {c : RateLimit.Check} :
    t.checks? e = some c ↔
      ∃ id s x rest,
        e = .meet id (.pass s) ∧
        t.begun id = none ∧
        t.pending? id = some ⟨x, .passing (.rateLimit :: rest)⟩ ∧
        x.checks? s.now = some c := by
  constructor
  · intro h
    cases e with
    | meet id e =>
        obtain ⟨r, hr, h⟩ := Option.bind_eq_some_iff.1 h
        unfold checksOf at h
        split at h
        · cases h
        · rename_i hbegun
          obtain ⟨s, x, rest, rfl, rfl, hx⟩ := Run.exists_of_checksAt?_eq_some h
          refine ⟨id, s, x, rest, rfl, ?_, hr, hx⟩
          exact Option.eq_none_iff_forall_ne_some.2 fun p hp => hbegun s p rfl hp
    | _ => cases h
  · rintro ⟨id, s, x, rest, rfl, hbegun, hr, hx⟩
    simp only [checks?, hr, Option.bind_some, checksOf, hbegun, Run.checksAt?, hx]

/-- A run asks the limiter what it has to ask, and does nothing else with it. -/
theorem limiter_turn (id : Nat) (r : Run) (e : Run.Event) :
    (t.turn id r e).gateway.limiter = t.gateway.limiter.asked (t.checksOf id r e) := by
  cases e with
  | pass s =>
      cases hbegun : t.begun id with
      | none =>
          simp only [turn, checksOf, hbegun]
          exact Run.limiter_meet t.gateway r (.pass s)
      | some p =>
          simp only [turn, checksOf, hbegun]
          exact (Run.sameBooks_endLease s t.gateway r p).limiter
  | answer now a => exact Run.limiter_meet t.gateway r (.answer now a)
  | expire now => exact Run.limiter_meet t.gateway r (.expire now)

/-- Operators leave the counters as they are. -/
theorem limiter_administer
    (g : Gateway)
    (exposition : String)
    (method : Method)
    (path : String) :
    (g.administer exposition method path).1.limiter = g.limiter := by
  unfold Gateway.administer Gateway.administerRegion
  split
  · rfl
  split
  · rfl
  split
  · rfl
  split
  · rfl
  split
  · split <;> rfl
  · rfl

/--
The limiter becomes at an event what it does when it meets the checks and sweeps of the event.
-/
theorem limiter_meet (e : Event) :
    (t.meet e).gateway.limiter = t.gateway.limiter.after (t.limits e) := by
  cases e with
  | arrive request peer requestId now => rfl
  | beginLease id now =>
      cases hr : t.pending? id with
      | none =>
          simp only [meet, hr]
          rfl
      | some r =>
          simp only [meet, hr, ask]
          split
          · exact (Run.sameBooks_beginLease? ‹_›).limiter
          · rfl
  | meet id e =>
      cases hr : t.pending? id with
      | none =>
          simp only [meet, limits, checks?, hr]
          rfl
      | some r =>
          simp only [meet, limits, checks?, hr, Option.bind_some]
          rw [limiter_turn]
          cases t.checksOf id r e <;> rfl
  | abandon id now =>
      cases hr : t.pending? id with
      | none =>
          simp only [meet, hr]
          rfl
      | some r =>
          simp only [meet, hr]
          exact (Run.sameBooks_abandon now t.gateway r).limiter
  | reload config => exact (Gateway.SameBooks.reload t.gateway config).limiter
  | prepare config => exact (Gateway.SameBooks.prepare t.gateway config).limiter
  | putTable table => rfl
  | putConfig config => rfl
  | resetBalancers directory => rfl
  | clearBreakers => rfl
  | sweep before now =>
      simp only [meet, limits, checks?, Event.sweeps?, Gateway.sweep]
      split <;> rfl
  | administer exposition method path => exact limiter_administer t.gateway exposition method path

/-- The limiter is what it becomes when it meets all checks and sweeps in their order. -/
theorem limiter_after (events : List Event) :
    (t.after events).gateway.limiter = t.gateway.limiter.after (t.limiterHistory events) := by
  induction events generalizing t with
  | nil => rfl
  | cons e es ih =>
      have hrest := ih (t := t.meet e)
      rw [limiter_meet e] at hrest
      exact hrest.trans List.foldl_append.symm

/-- Every check that the limiter has met was asked at an event. -/
theorem happened_of_mem_limiterHistory
    {events : List Event}
    {c : RateLimit.Check}
    (h : .check c ∈ t.limiterHistory events) :
    t.Happened events fun t e => t.checks? e = some c := by
  induction events generalizing t with
  | nil => cases h
  | cons e es ih =>
      rcases List.mem_append.1 h with h | h
      · refine ⟨[], e, es, rfl, ?_⟩
        rcases List.mem_append.1 h with h | h
        · obtain ⟨c', hc', heq⟩ := List.mem_map.1 h
          cases heq
          exact Option.mem_toList.1 hc'
        · obtain ⟨now, _, heq⟩ := List.mem_map.1 h
          cases heq
      · obtain ⟨before, e', later, rfl, hc⟩ := ih h
        exact ⟨e :: before, e', later, rfl, hc⟩

end Traffic
end ApiGateway
