import ApiGateway.Proofs.Http.Readable
import ApiGateway.Proofs.RateLimit.Sweeps

/-!
# When to try again

A caller that is denied is told for how many seconds to wait: those until its window closes, rounded
up. Whoever waits for so long is admitted, since the window that it was denied in is over then,
whatever sweeps have dropped. Whoever comes a second earlier comes into the same window and is
denied again, since its counter is still there: a sweep goes by the deadline in 64 bits, and this
is not reached before the window closes, as the clock of a process is in its first round.

Main statement: `retry_honest_and_tight`.
-/

namespace ApiGateway
namespace RateLimit

section Rounding

theorem retryAfterSecs_pos (d : Duration) : 1 ≤ retryAfterSecs d :=
  Nat.le_max_left _ _

/-- The advice is not too short. -/
theorem le_ofSecs_retryAfterSecs (d : Nat) : d ≤ Duration.ofSecs (retryAfterSecs d) := by
  unfold Duration.ofSecs retryAfterSecs Duration.secs Duration.subsecNanos Duration.perSecond
  split <;> omega

/-- A second less is too short. -/
theorem not_le_ofSecs_retryAfterSecs_sub_one
    {d : Nat}
    (hd : 0 < d) :
    ¬ d ≤ Duration.ofSecs (retryAfterSecs d - 1) := by
  unfold Duration.ofSecs retryAfterSecs Duration.secs Duration.subsecNanos Duration.perSecond
  split <;> omega

section Windows

variable {start period t t' : Nat}

/-- Inside a window, its end is ahead. -/
theorem add_rest (hinside : t - start < period) : t + (start + period - t) = start + period := by
  omega

/-- Whoever waits for as long as is told comes after the window. -/
theorem over_of_waited
    (hwaited : t + Duration.ofSecs (retryAfterSecs (start + period - t)) ≤ t') :
    period ≤ t' - start := by
  have hlong := le_ofSecs_retryAfterSecs (start + period - t)
  omega

/-- A second earlier the window is open. -/
theorem second_earlier_lt_end
    (hinside : t - start < period) :
    t + Duration.ofSecs (retryAfterSecs (start + period - t) - 1) < start + period := by
  have hrest : 0 < start + period - t := by omega
  have hshort := not_le_ofSecs_retryAfterSecs_sub_one hrest
  omega

/-- A window that closes in the second after an early instant fits into its round. -/
theorem fits_of_second_earlier
    (hclock : InFirstHalf (t + Duration.ofSecs (retryAfterSecs (start + period - t) - 1))) :
    Fits (start + period - t) t := by
  refine fits_of_end_lt ?_
  have hlong := le_ofSecs_retryAfterSecs (start + period - t)
  have hpos := retryAfterSecs_pos (start + period - t)
  unfold InFirstHalf Duration.micros Duration.ofSecs Duration.perSecond readingBound at *
  omega

/-- What is not yet at the end of the window is inside it. -/
theorem inside_of_lt_end
    (hinside : t - start < period)
    (hbefore : t' < start + period) :
    t' - start < period := by
  omega

end Windows

/-- A denial tells its advice, unless the policy has no headers. -/
theorem Decision.text?_retryAfter
    {d : Decision}
    (hdenied : d.allowed = false)
    {p : Policy}
    (hheaders : p.disableHeaders = false)
    (wallClock : Duration) :
    (d.headers p wallClock).text? .retryAfter = some (toString (retryAfterSecs d.resetAfter)) := by
  have hnumber := IpAddress.isReadableText_toString (retryAfterSecs d.resetAfter)
  rw [headers, hheaders, if_neg Bool.false_ne_true, hdenied, if_neg Bool.false_ne_true,
    Headers.text?_setText _ _ hnumber]

end Rounding

/-- There is no check under a key. -/
def Quiet (key : String) (events : List Event) : Prop :=
  ∀ c, .check c ∈ events → c.key ≠ key

section Quietness

variable {l : Limiter}
variable {key : String}
variable {events : List Event}
variable {c : Counter}

/-- In quiet times no counter comes in under the key, and none changes there. -/
theorem Quiet.getElem?_of_after
    (hquiet : Quiet key events)
    (hc : (l.after events).counters[key]? = some c) :
    l.counters[key]? = some c :=
  forall_after (P := fun c => l.counters[key]? = some c) (fun _ h => h)
    (fun o ho hkey => absurd hkey (hquiet o ho)) hc

/-- With room, the counter under the key is still there unless a sweep has read its deadline. -/
theorem Quiet.getElem?_after_iff
    (hquiet : Quiet key events)
    (hroom : l.Roomy events)
    (hc : l.counters[key]? = some c) :
    (l.after events).counters[key]? = some c ↔
      ∀ t, .sweep t ∈ events → microReading t < c.windowEndMicros := by
  induction events generalizing l with
  | nil => exact ⟨fun _ t ht => absurd ht List.not_mem_nil, fun _ => hc⟩
  | cons e es ih =>
      have hrest : Quiet key es := fun o ho => hquiet o (List.mem_cons_of_mem _ ho)
      cases e with
      | check o =>
          have hkept := l.getElem?_ask_of_ne o (hquiet o List.mem_cons_self)
          have hiff := ih hrest hroom (hkept.trans hc)
          simp only [List.mem_cons, reduceCtorEq, false_or]
          exact hiff
      | sweep t =>
          -- What the first sweep with such a reading drops does not come back.
          have hdropped := Limiter.getElem?_evictStale_eq_none_iff hroom.1 hc
          simp only [List.mem_cons, Event.sweep.injEq, forall_eq_or_imp]
          cases hswept : (l.evictStale t).counters[key]? with
          | none =>
              have hread := hdropped.1 hswept
              constructor
              · intro hafter
                cases hswept.symm.trans (hrest.getElem?_of_after hafter)
              · rintro ⟨hopen, _⟩
                exact absurd hread (Nat.not_le_of_lt hopen)
          | some c' =>
              cases hc.symm.trans (Limiter.getElem?_of_evictStale hswept)
              have hopen : microReading t < c.windowEndMicros := by
                refine Nat.lt_of_not_le fun hread => ?_
                cases hswept.symm.trans (hdropped.2 hread)
              have hiff := ih hrest hroom.2 hswept
              exact ⟨fun hafter => ⟨hopen, hiff.1 hafter⟩, fun h => hiff.2 h.2⟩

end Quietness

section Denials

variable {l : Limiter}
variable {caller : Caller}
variable {t : Instant}
variable {c : Counter}

/-- The counter of a caller is full, and its window is still open. -/
structure Limiter.Exhausted (l : Limiter) (caller : Caller) (t : Instant) (c : Counter) : Prop where
  found : l.counters[caller.key]? = some c
  full : caller.policy.limit ≤ c.count
  inside : t - c.windowStart < caller.policy.period

/-- An attempt is denied in a full window that is still open. -/
theorem Limiter.Exhausted.ask_snd
    (h : l.Exhausted caller t c) :
    (l.ask ⟨caller, t⟩).2 = ⟨false, 0, c.windowStart + caller.policy.period - t⟩ := by
  have hkept : c.renewed caller.policy.period t = c := if_neg (Nat.not_le_of_lt h.inside)
  rw [ask_snd_eq, h.found, Option.getD_some]
  rcases Counter.attempt_cases c caller.policy t with ⟨_, ha⟩ | ⟨hroom, _⟩
  · rw [ha, hkept]
  · rw [hkept] at hroom
    exact absurd h.full (Nat.not_le_of_lt hroom)

/-- Only there it is. -/
theorem Limiter.exists_exhausted_of_denied
    (hlimit : 0 < caller.policy.limit)
    (hdenied : (l.ask ⟨caller, t⟩).2.allowed = false) :
    ∃ c, l.Exhausted caller t c := by
  have hfresh := Counter.attempt_opened caller.policy t hlimit
  rw [ask_snd_eq] at hdenied
  cases hc : l.counters[caller.key]? with
  | none =>
      rw [hc, Option.getD_none, hfresh] at hdenied
      cases hdenied
  | some c =>
      rw [hc, Option.getD_some] at hdenied
      by_cases hover : caller.policy.period ≤ t - c.windowStart
      · rw [c.attempt_of_over hover, hfresh] at hdenied
        cases hdenied
      · refine ⟨c, hc, ?_, Nat.lt_of_not_le hover⟩
        rcases Counter.attempt_cases c caller.policy t with ⟨hfull, _⟩ | ⟨_, ha⟩
        · rwa [Counter.renewed, if_neg hover] at hfull
        · rw [ha] at hdenied
          cases hdenied

/-- A denied attempt leaves the limiter as it is. -/
theorem Limiter.Exhausted.ask_fst
    (h : l.Exhausted caller t c)
    (hlimit : 0 < caller.policy.limit) :
    (l.ask ⟨caller, t⟩).1 = l := by
  have hdenied : (l.ask ⟨caller, t⟩).2.allowed = false := by rw [h.ask_snd]
  exact l.check_of_denied caller.policy caller.routeKey caller.client t hlimit hdenied

/-- The answer at `t'` to a caller that has come at `t`, after what has happened in between. -/
def Limiter.answerAgain
    (l : Limiter)
    (caller : Caller)
    (t : Instant)
    (later : List Event)
    (t' : Instant) :
    Decision :=
  ((l.after (.check ⟨caller, t⟩ :: later)).ask ⟨caller, t'⟩).2

/-- In quiet times the next denial comes from the same counter, while its window is open. -/
theorem Limiter.Exhausted.denied_again_iff
    (h : l.Exhausted caller t c)
    (hlimit : 0 < caller.policy.limit)
    {later : List Event}
    (hquiet : Quiet caller.key later)
    (t' : Instant) :
    (l.answerAgain caller t later t').allowed = false ↔
      (l.after later).counters[caller.key]? = some c ∧
      t' - c.windowStart < caller.policy.period := by
  have hsame : l.after (.check ⟨caller, t⟩ :: later) = l.after later := by
    rw [after, List.foldl_cons, meet, h.ask_fst hlimit, after]
  rw [answerAgain, hsame]
  constructor
  · intro hdenied
    obtain ⟨c', hfound, _, hinside⟩ := exists_exhausted_of_denied hlimit hdenied
    cases h.found.symm.trans (hquiet.getElem?_of_after hfound)
    exact ⟨hfound, hinside⟩
  · rintro ⟨hfound, hinside⟩
    have hlater : (l.after later).Exhausted caller t' c := ⟨hfound, h.full, hinside⟩
    rw [hlater.ask_snd]

/--
With room, a second before it is told to come a caller is denied just when no sweep in between reads
the deadline of the window.
-/
theorem Limiter.Exhausted.denied_second_earlier_iff
    (h : l.Exhausted caller t c)
    (hlimit : 0 < caller.policy.limit)
    {later : List Event}
    (hquiet : Quiet caller.key later)
    (hroom : l.Roomy later) :
    (l.answerAgain caller t later
      (t + Duration.ofSecs
        (retryAfterSecs (c.windowStart + caller.policy.period - t) - 1))).allowed = false ↔
      ∀ u, .sweep u ∈ later → microReading u < c.windowEndMicros := by
  have hstill := inside_of_lt_end h.inside (second_earlier_lt_end h.inside)
  rw [h.denied_again_iff hlimit hquiet, hquiet.getElem?_after_iff hroom h.found,
    and_iff_left hstill]

end Denials

section Advice

variable {past : List Event}
variable {l : Limiter}
variable {caller : Caller}
variable {t : Instant}
variable {d : Decision}

/--
Take any history of a limiter in which the checks under a key go by one period, and a check under
this key that is denied by a policy with headers and with a limit of at least one, as every policy
has that is made from settings. The number of seconds that its headers tell is at least one. If no
other check under the key comes in between, a check that waits for so long is admitted, whatever
sweeps there are. A check that comes a second earlier is denied, wherever there are sweeps in between
that find room, if the instants of the checks and the period are whole microseconds and the clock of
a process reads them.
-/
theorem retry_honest_and_tight
    (hpast : ({} : Limiter).after past = l)
    (hlimit : 0 < caller.policy.limit)
    (hheaders : caller.policy.disableHeaders = false)
    (hpolicy : ∀ c, .check c ∈ past → c.key = caller.key →
      c.policy.period = caller.policy.period)
    (hanswer : (l.ask ⟨caller, t⟩).2 = d)
    (hdenied : d.allowed = false) :
    1 ≤ retryAfterSecs d.resetAfter ∧
    (∀ wallClock, (d.headers caller.policy wallClock).text? .retryAfter =
      some (toString (retryAfterSecs d.resetAfter))) ∧
    (∀ (later : List Event) (t' : Instant),
      Quiet caller.key later →
      t + Duration.ofSecs (retryAfterSecs d.resetAfter) ≤ t' →
      (l.answerAgain caller t later t').allowed = true) ∧
    ∀ (later : List Event) (t' : Instant),
      Quiet caller.key later →
      l.Roomy later →
      t' = t + Duration.ofSecs (retryAfterSecs d.resetAfter - 1) →
      (∀ u, .sweep u ∈ later → t ≤ u ∧ u ≤ t') →
      (∀ c, .check c ∈ past → c.key = caller.key → c.time % 1000 = 0) →
      caller.policy.period % 1000 = 0 →
      InFirstHalf t' →
      (l.answerAgain caller t later t').allowed = false := by
  subst hanswer
  obtain ⟨c, hc⟩ := Limiter.exists_exhausted_of_denied hlimit hdenied
  obtain ⟨o, ho, hkey, hopened⟩ := exists_openedBy_of_after (hpast ▸ hc.found)
  rw [hc.ask_snd]
  refine ⟨retryAfterSecs_pos _, Decision.text?_retryAfter rfl hheaders, ?_, ?_⟩
  · intro later t' hquiet hwaited
    refine eq_true_of_ne_false fun hagain => ?_
    have hstill := ((hc.denied_again_iff hlimit hquiet t').1 hagain).2
    exact Nat.not_lt_of_le (over_of_waited hwaited) hstill
  · rintro later t' hquiet hroom rfl hbetween hwhole hperiod hclock
    have hdeadline : c.windowEndMicros = microReading (c.windowStart + caller.policy.period) := by
      rw [hopened.deadline, hopened.start, hpolicy o ho hkey]
    have hstop : (c.windowStart + caller.policy.period) % 1000 = 0 := by
      rw [Nat.add_mod, hopened.start, hwhole o ho hkey, hperiod]
    have hfits := fits_of_second_earlier hclock
    rw [Fits, add_rest hc.inside] at hfits
    rw [hc.denied_second_earlier_iff hlimit hquiet hroom, hdeadline]
    refine fun u hu => Nat.lt_of_not_le fun hread => ?_
    obtain ⟨hfirst, hlast⟩ := hbetween u hu
    have hover := end_le_of_reading_le hfirst hstop hfits hread
    exact Nat.not_lt_of_le (Nat.le_trans hover hlast) (second_earlier_lt_end hc.inside)

end Advice

section Instances

/-- Someone who may call once in half a minute. -/
def patient : Caller :=
  ⟨{ oncePerSecond with period := 30000000000, periodLabel := "30s" }, "r", "c"⟩

/--
A caller that is denied after ten and a half seconds of thirty is told to wait for twenty. With a
sweep in between, it is denied a second earlier, and admitted when it has waited.
-/
theorem retry_honest_and_tight_half_minute :
    let l := ({} : Limiter).after [.check ⟨patient, 0⟩]
    (l.ask ⟨patient, 10500000000⟩).2 = ⟨false, 0, 19500000000⟩ ∧
    (Decision.headers ⟨false, 0, 19500000000⟩ patient.policy 0).text? .retryAfter = some "20" ∧
    (l.answerAgain patient 10500000000 [.sweep 15000000000] 29500000000).allowed = false ∧
    (l.answerAgain patient 10500000000 [.sweep 15000000000] 30500000000).allowed = true := by
  intro l
  have hpolicy : ∀ c, .check c ∈ [Event.check ⟨patient, 0⟩] → c.key = patient.key →
      c.policy.period = patient.policy.period := by
    intro c hc _
    cases List.mem_singleton.1 hc
    rfl
  have hquiet : Quiet patient.key [.sweep 15000000000] := by
    intro c hc
    cases List.mem_singleton.1 hc
  have hanswer : (l.ask ⟨patient, 10500000000⟩).2 = ⟨false, 0, 19500000000⟩ := by
    decide +kernel
  have hwhole : ∀ c, .check c ∈ [Event.check ⟨patient, 0⟩] → c.key = patient.key →
      c.time % 1000 = 0 := by
    intro c hc _
    cases List.mem_singleton.1 hc
    rfl
  have hbetween : ∀ u, Event.sweep u ∈ [.sweep 15000000000] →
      10500000000 ≤ u ∧ u ≤ 29500000000 := by
    intro u hu
    cases List.mem_singleton.1 hu
    decide
  obtain ⟨_, htold, hhonest, htight⟩ :=
    retry_honest_and_tight rfl (by decide) rfl hpolicy hanswer rfl
  refine ⟨hanswer, htold 0, ?_, hhonest _ _ hquiet (by decide)⟩
  exact htight _ _ hquiet (by decide +kernel) (by decide) hbetween hwhole (by decide) (by decide)

end Instances

end RateLimit
end ApiGateway
