import ApiGateway.Proofs.RateLimit.History
import ApiGateway.Proofs.Run.Books

/-!
# Use of the rate limiter by runs

A run asks the rate limiter at one stage, if its caller is limited. All else that it does leaves the
limiter as it is.
-/

namespace ApiGateway

/-- A limiter after a check, if there is one. -/
def RateLimit.Limiter.asked (l : Limiter) : Option Check → Limiter
  | none => l
  | some c => (l.ask c).1

/-- What an exchange asks the rate limiter. -/
def Exchange.checks? (x : Exchange) (now : Instant) : Option RateLimit.Check :=
  match x.resolved with
  | none => none
  | some found =>
      match found.route.rateLimit with
      | none => none
      | some p =>
          if p.isWhitelisted (p.clientId x.request.headers) then none
          else some ⟨⟨p, found.route.key, p.clientId x.request.headers⟩, now⟩

theorem Exchange.checks?_eq_some_iff
    {x : Exchange}
    {now : Instant}
    {c : RateLimit.Check} :
    x.checks? now = some c ↔
      ∃ found p,
        x.resolved = some found ∧
        found.route.rateLimit = some p ∧
        p.isWhitelisted (p.clientId x.request.headers) = false ∧
        c = ⟨⟨p, found.route.key, p.clientId x.request.headers⟩, now⟩ := by
  unfold checks?
  constructor
  · intro h
    split at h
    · cases h
    · rename_i found hfound
      split at h
      · cases h
      · rename_i p hp
        split at h
        · cases h
        · rename_i hlisted
          cases h
          exact ⟨found, p, hfound, hp, Bool.eq_false_iff.2 hlisted, rfl⟩
  · rintro ⟨found, p, hfound, hp, hlisted, rfl⟩
    simp only [hfound, hp, hlisted, Bool.false_eq_true, if_false]

namespace Stage

variable (s : Surroundings)
variable (g : Gateway)
variable (x : Exchange)

/-- The one stage that asks the limiter asks what the exchange has to ask, and notes the advice. -/
theorem limitRate_asks :
    (x.checks? s.now = none ∧
      (limitRate s g x).gateway.limiter = g.limiter ∧
      (limitRate s g x).exchange = x) ∨
    ∃ c,
      x.checks? s.now = some c ∧
      (limitRate s g x).gateway.limiter = (g.limiter.ask c).1 ∧
      (limitRate s g x).exchange =
        { x with advice := (g.limiter.ask c).2.headers c.policy s.wallClock } := by
  rcases limitRate_cases s g x with
    ⟨hx, h⟩ | ⟨r, hx, hfree, h⟩ | ⟨r, p, l, d, hx, hp, hlisted, hcheck, h⟩
  · exact .inl ⟨by simp only [Exchange.checks?, hx], by rw [h]; exact ⟨rfl, rfl⟩⟩
  · refine .inl ⟨?_, by rw [h]; exact ⟨rfl, rfl⟩⟩
    rcases hfree with hp | ⟨p, hp, hlisted⟩
    · simp only [Exchange.checks?, hx, hp]
    · simp only [Exchange.checks?, hx, hp, hlisted, if_true]
  · have hasked : g.limiter.ask ⟨⟨p, r.route.key, p.clientId x.request.headers⟩, s.now⟩ = (l, d) :=
      hcheck
    refine .inr ⟨_, Exchange.checks?_eq_some_iff.2 ⟨r, p, hx, hp, hlisted, rfl⟩, ?_⟩
    rw [hasked]
    rcases h with ⟨_, h⟩ | ⟨_, h⟩ <;> rw [h] <;> exact ⟨rfl, rfl⟩

theorem limiter_limitRate :
    (limitRate s g x).gateway.limiter = g.limiter.asked (x.checks? s.now) := by
  rcases limitRate_asks s g x with ⟨hnone, hlimiter, _⟩ | ⟨c, hsome, hlimiter, _⟩
  · rw [hnone, hlimiter]
    rfl
  · rw [hsome, hlimiter]
    rfl

/-- To store an answer has nothing to do with the limiter. -/
theorem limiter_store : (store s g x).gateway.limiter = g.limiter := by
  rcases store_cases s g x with ⟨_, h⟩ | ⟨r, _, h⟩ | ⟨r, p, key, response, _, _, _, _, _, h⟩ <;>
    rw [h] <;> rfl

end Stage

namespace Run

/-- What a run asks the rate limiter at an event. -/
def checksAt? (r : Run) : Event → Option RateLimit.Check
  | .pass s =>
      match r.phase with
      | .passing (.rateLimit :: _) => r.exchange.checks? s.now
      | _ => none
  | _ => none

/-- A run that asks the limiter is about to be limited. -/
theorem exists_of_checksAt?_eq_some
    {r : Run}
    {e : Event}
    {c : RateLimit.Check}
    (h : r.checksAt? e = some c) :
    ∃ s x rest,
      e = .pass s ∧
      r = ⟨x, .passing (.rateLimit :: rest)⟩ ∧
      x.checks? s.now = some c := by
  unfold checksAt? at h
  split at h
  · rename_i s
    split at h
    · rename_i rest hphase
      exact ⟨s, r.exchange, rest, rfl, by rw [← hphase], h⟩
    · cases h
  · cases h

/-- All that a run does with the limiter at an event is to ask what it has to ask. -/
theorem limiter_meet (g : Gateway) (r : Run) (e : Event) :
    (r.meet g e).1.limiter = g.limiter.asked (r.checksAt? e) := by
  cases hchecks : r.checksAt? e with
  | some c =>
      obtain ⟨s, x, rest, rfl, rfl, hx⟩ := exists_of_checksAt?_eq_some hchecks
      refine (sameBooks_after s.now rest (Stage.limitRate s g x)).limiter.trans ?_
      rw [← hx]
      exact Stage.limiter_limitRate s g x
  | none =>
      rcases sameBooks_meet g r e with hbooks | ⟨s, x, stage, rest, rfl, rfl, hstage, hbooks⟩
      · exact hbooks.limiter
      · refine hbooks.limiter.trans ?_
        simp only [List.mem_cons, List.not_mem_nil, or_false] at hstage
        rcases hstage with rfl | rfl
        · have hnone : x.checks? s.now = none := hchecks
          exact (Stage.limiter_limitRate s g x).trans (by rw [hnone])
        · exact Stage.limiter_store s g x

end Run
end ApiGateway
