import ApiGateway.Proofs.Duration.Reckonings
import ApiGateway.Proofs.RateLimit.History

/-!
# Reckonings of the rate limiter

A check reckons when the window closes, and where it opens one, when sweeps may drop it. Callers
that are let pass are told the date at which the window closes.

Main statements: `Limiter.inRange_of_mem_reckonings` and `fitsIn_of_inRange`.
-/

namespace ApiGateway
namespace RateLimit

/-- What is reckoned for a window that opens. -/
def openings (period : Duration) (now : Instant) : List Reckoning :=
  [.instant (now + period), .reading (now + period)]

/-- What is reckoned where a counter decides on an attempt. -/
def Counter.reckonings (c : Counter) (period : Duration) (now : Instant) : List Reckoning :=
  (if period ≤ now - c.windowStart then openings period now else []) ++
    [.instant ((c.renewed period now).windowStart + period)]

/-- What is reckoned in a check: a caller without a counter gets one, and it decides. -/
def Limiter.reckonings (l : Limiter) (c : Check) : List Reckoning :=
  (if l.counters[c.key]?.isNone then openings c.policy.period c.time else []) ++
    (l.answering c).reckonings c.policy.period c.time

/-- What is reckoned for the advice to a caller. -/
def Decision.reckonings (d : Decision) (p : Policy) (wallClock : Duration) : List Reckoning :=
  if p.disableHeaders then []
  else if d.allowed then [.date (wallClock + d.resetAfter)]
  else []

/-- All windows of a policy close in time, and callers can be told when. -/
structure Policy.FitsIn (h : Horizon) (p : Policy) : Prop where
  window : (Reckoning.instant (h.last + p.period)).InRange h.origin
  deadline : (Reckoning.reading (h.last + p.period)).InRange h.origin
  advice : p.disableHeaders = false →
    (Reckoning.date (h.wallClock + p.period)).InRange h.origin

variable {h : Horizon}
variable {l : Limiter}
variable {c : Check}

instance (h : Horizon) (p : Policy) : Decidable (p.FitsIn h) :=
  decidable_of_iff
    ((Reckoning.instant (h.last + p.period)).InRange h.origin ∧
      (Reckoning.reading (h.last + p.period)).InRange h.origin ∧
      (p.disableHeaders = false → (Reckoning.date (h.wallClock + p.period)).InRange h.origin))
    ⟨fun ⟨hwindow, hdeadline, hadvice⟩ => ⟨hwindow, hdeadline, hadvice⟩,
      fun hfits => ⟨hfits.window, hfits.deadline, hfits.advice⟩⟩

/-- A counter that is renewed has its window from then on. -/
theorem Counter.windowStart_renewed_le
    {c : Counter}
    {now : Instant}
    (hstart : c.windowStart ≤ now)
    (period : Duration) :
    (c.renewed period now).windowStart ≤ now := by
  unfold renewed
  split
  · exact Nat.le_refl now
  · exact hstart

theorem Counter.resetAfter_attempt
    (c : Counter)
    (p : Policy)
    (now : Instant) :
    (c.attempt p now).2.resetAfter = (c.renewed p.period now).windowStart + p.period - now := by
  rcases attempt_cases c p now with ⟨_, ha⟩ | ⟨_, ha⟩ <;> rw [ha]

/-- The window of a counter has opened when it decides. -/
theorem windowStart_answering_le
    (hstart : ∀ w, l.counters[c.key]? = some w → w.windowStart ≤ c.time) :
    (l.answering c).windowStart ≤ c.time := by
  unfold Limiter.answering Limiter.found
  cases hw : l.counters[c.key]? with
  | none => exact Nat.le_refl c.time
  | some w => exact hstart w hw

/-- No caller has to wait for longer than a window lasts. -/
theorem resetAfter_ask_le
    (hstart : ∀ w, l.counters[c.key]? = some w → w.windowStart ≤ c.time) :
    (l.ask c).2.resetAfter ≤ c.policy.period := by
  have hopen := Counter.windowStart_renewed_le (windowStart_answering_le hstart) c.policy.period
  rw [Limiter.ask_snd, Counter.resetAfter_attempt]
  exact Nat.sub_le_iff_le_add'.2 (Nat.add_le_add_right hopen c.policy.period)

section Fitting

/-- A window that opens in time closes in time. -/
theorem inRange_of_mem_openings
    {p : Policy}
    (hfits : p.FitsIn h)
    {now : Instant}
    (hnow : now ≤ h.last)
    {k : Reckoning}
    (hk : k ∈ openings p.period now) :
    k.InRange h.origin := by
  have hend := Nat.add_le_add_right hnow p.period
  rcases List.mem_cons.1 hk with rfl | hk
  · exact hfits.window.mono (.instant hend)
  · rw [List.mem_singleton.1 hk]
    exact hfits.deadline.mono (.reading hend)

/-- All that is reckoned in a check of a policy that fits comes out. -/
theorem Limiter.inRange_of_mem_reckonings
    (hfits : c.policy.FitsIn h)
    (htime : c.time ≤ h.last)
    (hstart : ∀ w, l.counters[c.key]? = some w → w.windowStart ≤ c.time)
    {k : Reckoning}
    (hk : k ∈ l.reckonings c) :
    k.InRange h.origin := by
  have hopenings : ∀ {q : Prop} [Decidable q],
      k ∈ (if q then openings c.policy.period c.time else []) → k.InRange h.origin := by
    intro q _ hk
    split at hk
    · exact inRange_of_mem_openings hfits htime hk
    · cases hk
  rcases List.mem_append.1 hk with hk | hk
  · exact hopenings hk
  · rcases List.mem_append.1 hk with hk | hk
    · exact hopenings hk
    · rw [List.mem_singleton.1 hk]
      have hopen :=
        Counter.windowStart_renewed_le (windowStart_answering_le hstart) c.policy.period
      exact hfits.window.mono
        (.instant (Nat.add_le_add_right (Nat.le_trans hopen htime) c.policy.period))

/-- And so does the date that the caller is told. -/
theorem inRange_of_mem_advice
    (hfits : c.policy.FitsIn h)
    (hstart : ∀ w, l.counters[c.key]? = some w → w.windowStart ≤ c.time)
    {wallClock : Duration}
    (hwall : wallClock ≤ h.wallClock)
    {k : Reckoning}
    (hk : k ∈ (l.ask c).2.reckonings c.policy wallClock) :
    k.InRange h.origin := by
  unfold Decision.reckonings at hk
  split at hk
  · cases hk
  · rename_i htold
    split at hk
    · rw [List.mem_singleton.1 hk]
      exact (hfits.advice (Bool.eq_false_iff.2 htold)).mono
        (.date (Nat.add_le_add hwall (resetAfter_ask_le hstart)))
    · cases hk

/-- A caller without a counter is let pass and told to wait for a whole window. -/
theorem ask_of_none
    (hnone : l.counters[c.key]? = none)
    (hlimit : 0 < c.policy.limit) :
    (l.ask c).2 = ⟨true, c.policy.limit - 1, c.policy.period⟩ := by
  have hanswering : l.answering c = .opened c.policy.period c.time := by
    rw [Limiter.answering, Limiter.found, hnone, Option.getD_none]
  rw [Limiter.ask_snd, hanswering, Counter.attempt_opened _ _ hlimit]

/-- What comes out in the last check of all, by a caller without a counter, always does. -/
theorem fitsIn_of_inRange
    (htime : c.time = h.last)
    (hnone : l.counters[c.key]? = none)
    (hlimit : 0 < c.policy.limit)
    (hall : ∀ k ∈ l.reckonings c ++ (l.ask c).2.reckonings c.policy h.wallClock,
      k.InRange h.origin) :
    c.policy.FitsIn h := by
  have hopenings : ∀ k ∈ openings c.policy.period c.time, k.InRange h.origin := by
    intro k hk
    refine hall k (List.mem_append_left _ (List.mem_append_left _ ?_))
    rw [hnone]
    exact hk
  rw [htime] at hopenings
  refine ⟨hopenings _ List.mem_cons_self,
    hopenings _ (List.mem_cons_of_mem _ List.mem_cons_self), fun htold => ?_⟩
  refine hall _ (List.mem_append_right _ ?_)
  rw [ask_of_none hnone hlimit]
  simp only [Decision.reckonings, htold, Bool.false_eq_true, if_false, if_true,
    List.mem_singleton]

end Fitting
end RateLimit
end ApiGateway
