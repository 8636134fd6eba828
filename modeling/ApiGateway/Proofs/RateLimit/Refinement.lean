import ApiGateway.Proofs.RateLimit.History
import ApiGateway.Proofs.RateLimit.Window

/-!
# The limiter decides as the plain window

Seen through one key, and as long as no sweep has to drop windows that are open, the limiter decides
as the plain fixed window does: the counter under the key is the window of the reference, or the
window has closed and a sweep has taken the counter (`Shows`).

Sweeps compare readings of a clock that counts microseconds in 64 bits, from when the limiter was
made. A window that reached across the end of a round of it would look closed while it lasts, so
windows have to fit into a round (`Fits`). They do: periods are shorter than half a round, and the
clock of a process does not get through the first half of one, which takes more than 292,000 years
(`InFirstHalf`).

Main statement: `decides_as_window`.
-/

namespace ApiGateway
namespace RateLimit

/-- A window begins and ends in one round of the clock that sweeps read. -/
def Fits (period : Duration) (start : Instant) : Prop :=
  Duration.micros start / readingBound = Duration.micros (start + period) / readingBound

instance (period : Duration) (start : Instant) : Decidable (Fits period start) :=
  inferInstanceAs (Decidable (_ = _))

/-- A time below half a round of the clock that sweeps read. -/
def InFirstHalf (d : Duration) : Prop :=
  2 * Duration.micros d < readingBound

instance (d : Duration) : Decidable (InFirstHalf d) :=
  inferInstanceAs (Decidable (_ < _))

/-- The counter of a window of the reference. -/
def Window.toCounter (period : Duration) (w : Window) : Counter :=
  ⟨w.start, w.admitted, microReading (w.start + period)⟩

section Clock

/-- In one round of the clock, a reading that is not before the end of a window is right. -/
theorem end_le_of_reading_le
    {start stop t : Nat}
    (hstart : start ≤ t)
    (hwhole : stop % 1000 = 0)
    (hfits : Duration.micros start / readingBound = Duration.micros stop / readingBound)
    (h : microReading stop ≤ microReading t) :
    stop ≤ t := by
  unfold microReading Duration.micros readingBound at *
  omega

/-- What ends within the first round fits. -/
theorem fits_of_end_lt
    {start : Instant}
    {period : Duration}
    (hend : Duration.micros (start + period) < readingBound) :
    Fits period start := by
  unfold Fits Duration.micros at *
  have hstart : start / 1000 < readingBound :=
    Nat.lt_of_le_of_lt (Nat.div_le_div_right (Nat.le_add_right _ _)) hend
  rw [Nat.div_eq_of_lt hstart, Nat.div_eq_of_lt hend]

/-- A window that is opened in the first half of a round, and not longer than it, fits. -/
theorem fits_of_inFirstHalf
    {start : Instant}
    {period : Duration}
    (hstart : InFirstHalf start)
    (hperiod : InFirstHalf period) :
    Fits period start := by
  refine fits_of_end_lt ?_
  unfold InFirstHalf Duration.micros readingBound at *
  omega

end Clock

section Refinement

variable {limit : Nat}
variable {period : Duration}

/-- A window opens in the counter when it opens in the reference. -/
theorem renewed_toCounter
    (w : Window)
    {t : Instant}
    (ht : w.start ≤ t) :
    (w.toCounter period).renewed period t =
      (Window.current period (some w) t).toCounter period := by
  unfold Counter.renewed
  rcases Window.current_cases period w t with ⟨hin, hc⟩ | ⟨hend, hc⟩ <;> rw [hc]
  · rw [if_neg]
    exact Nat.not_le_of_lt (Nat.sub_lt_left_of_lt_add ht hin)
  · rw [if_pos]
    · rfl
    · exact Nat.le_sub_of_add_le (Nat.add_comm period w.start ▸ hend)

/-- The counter of a window decides as the window does. -/
theorem attempt_toCounter
    (p : Policy)
    (w : Window)
    {t : Instant}
    (ht : w.start ≤ t) :
    (w.toCounter p.period).attempt p t =
      ((Window.rule p.limit p.period (Window.current p.period (some w) t) t).1.toCounter p.period,
        (Window.rule p.limit p.period (Window.current p.period (some w) t) t).2) := by
  have hcases := Counter.attempt_cases (w.toCounter p.period) p t
  rw [renewed_toCounter w ht] at hcases
  rcases Window.rule_cases p.limit p.period
    (Window.current p.period (some w) t) t with ⟨hroom, hr⟩ | ⟨hfull, hr⟩
  · rcases hcases with ⟨hfull, _⟩ | ⟨_, ha⟩
    · exact absurd hroom (Nat.not_lt_of_le hfull)
    · rw [ha, hr]
      rfl
  · rcases hcases with ⟨_, ha⟩ | ⟨hroom, _⟩
    · rw [ha, hr]
      rfl
    · exact absurd hroom (Nat.not_lt_of_le hfull)

/--
How the counter under a key shows the window of the reference, at an instant: there is none of
either, or a sweep has taken the counter of a window that is over, or they agree.
-/
inductive Shows (period : Duration) (last : Instant) : Option Counter → Option Window → Prop
  | fresh : Shows period last none none
  | swept {w : Window} :
      w.start + period ≤ last →
      Shows period last none (some w)
  | live {w : Window} :
      w.start ≤ last →
      (w.start + period) % 1000 = 0 →
      Fits period w.start →
      Shows period last (some (w.toCounter period)) (some w)

namespace Shows

variable {last : Instant}
variable {l : Limiter}
variable {key : String}
variable {w : Option Window}

/-- What is shown stays so while nothing happens to the counter. -/
theorem later
    {c : Option Counter}
    (h : Shows period last c w)
    {t : Instant}
    (ht : last ≤ t) :
    Shows period t c w := by
  cases h with
  | fresh => exact .fresh
  | swept hend => exact .swept (Nat.le_trans hend ht)
  | live hstart hwhole hfits => exact .live (Nat.le_trans hstart ht) hwhole hfits

/-- An attempt finds the counter of a window that is as good as the one shown. -/
theorem found
    (h : Shows period last l.counters[key]? w)
    {t : Instant}
    (ht : last ≤ t) :
    ∃ v : Window,
      l.found period key t = v.toCounter period ∧
      v.start ≤ t ∧
      Window.current period (some v) t = Window.current period w t := by
  have hopened : Window.current period (some ⟨t, 0⟩) t = ⟨t, 0⟩ := by
    rcases Window.current_cases period ⟨t, 0⟩ t with ⟨_, h⟩ | ⟨_, h⟩ <;> rw [h]
  unfold Limiter.found
  generalize l.counters[key]? = c at h
  cases h with
  | fresh => exact ⟨⟨t, 0⟩, rfl, Nat.le_refl _, hopened⟩
  | @swept w hend =>
      rcases Window.current_cases period w t with ⟨hin, _⟩ | ⟨_, hc⟩
      · exact absurd (Nat.le_trans hend ht) (Nat.not_le_of_lt hin)
      · exact ⟨⟨t, 0⟩, rfl, Nat.le_refl _, hopened.trans hc.symm⟩
  | @live w hstart _ _ => exact ⟨w, rfl, Nat.le_trans hstart ht, rfl⟩

/-- A check under the key is decided on as in the reference, and shows the window after it. -/
theorem check
    (h : Shows period last l.counters[key]? w)
    {c : Check}
    (hkey : c.key = key)
    (hlimit : c.policy.limit = limit)
    (hperiod : c.policy.period = period)
    (ht : last ≤ c.time)
    (hwhole : ((Window.current period w c.time).start + period) % 1000 = 0)
    (hfits : Fits period (Window.current period w c.time).start) :
    (l.ask c).2 =
      (Window.rule limit period (Window.current period w c.time) c.time).2 ∧
    Shows period c.time
      (l.ask c).1.counters[key]?
      (some (Window.rule limit period (Window.current period w c.time) c.time).1) := by
  subst hlimit hperiod hkey
  obtain ⟨v, hfound, hv, hcurrent⟩ := h.found ht
  have hattempt := attempt_toCounter c.policy v hv
  rw [hcurrent] at hattempt
  rw [l.getElem?_ask_self, l.ask_snd, Limiter.answering, hfound, hattempt]
  refine ⟨rfl, .live ?_ ?_ ?_⟩
  · rw [Window.start_rule, ← hcurrent]
    rcases Window.current_cases c.policy.period v c.time with ⟨_, h⟩ | ⟨_, h⟩
    · rw [h]
      exact hv
    · exact Nat.le_of_eq (congrArg Window.start h)
  · rw [Window.start_rule]
    exact hwhole
  · rw [Window.start_rule]
    exact hfits

/-- A check under another key changes nothing that is shown. -/
theorem check_of_ne
    (h : Shows period last l.counters[key]? w)
    {c : Check}
    (hkey : c.key ≠ key)
    (ht : last ≤ c.time) :
    Shows period c.time (l.ask c).1.counters[key]? w := by
  rw [l.getElem?_ask_of_ne c hkey]
  exact h.later ht

/-- A sweep takes the counter only if its window is over. -/
theorem sweep
    (h : Shows period last l.counters[key]? w)
    {t : Instant}
    (ht : last ≤ t)
    (hroom : (l.dropClosed t).size ≤ maxCounters) :
    Shows period t (l.evictStale t).counters[key]? w := by
  rw [l.getElem?_evictStale hroom]
  generalize l.counters[key]? = c at h
  cases h with
  | fresh => exact .fresh
  | swept hend => exact .swept (Nat.le_trans hend ht)
  | @live w hstart hwhole hfits =>
      by_cases hopen : microReading t < (w.toCounter period).windowEndMicros
      · rw [Option.filter_some, if_pos (decide_eq_true hopen)]
        exact .live (Nat.le_trans hstart ht) hwhole hfits
      · rw [Option.filter_some, if_neg]
        · exact .swept (end_le_of_reading_le (Nat.le_trans hstart ht) hwhole hfits
            (Nat.le_of_not_lt hopen))
        · exact fun hdecide => hopen (of_decide_eq_true hdecide)

/-- The window to which an attempt belongs is read well by sweeps, if those that open are. -/
theorem current_fits
    {c : Option Counter}
    (h : Shows period last c w)
    {t : Instant}
    (ht : last ≤ t)
    (hnew : (∀ v, w = some v → v.start + period ≤ t) →
      (t + period) % 1000 = 0 ∧ Fits period t) :
    ((Window.current period w t).start + period) % 1000 = 0 ∧
      Fits period (Window.current period w t).start := by
  cases w with
  | none => exact hnew nofun
  | some w =>
      rcases Window.current_cases period w t with ⟨hin, hc⟩ | ⟨hend, hc⟩ <;> rw [hc]
      · cases h with
        | swept hend => exact absurd (Nat.le_trans hend ht) (Nat.not_le_of_lt hin)
        | live _ hwhole hfits => exact ⟨hwhole, hfits⟩
      · refine hnew fun v hv => ?_
        cases hv
        exact hend

/-- The rest of a history is decided as in the reference. -/
theorem decisionsOn_eq
    {events : List Event}
    (h : Shows period last l.counters[key]? w)
    (hperiod : period % 1000 = 0)
    (hpolicy : ∀ c, .check c ∈ events → c.key = key →
      c.policy.limit = limit ∧ c.policy.period = period ∧ c.time % 1000 = 0)
    (hlast : ∀ e, e ∈ events → last ≤ e.time)
    (horder : events.Pairwise fun e e' => e.time ≤ e'.time)
    (hroom : l.Roomy events)
    (hfits : ∀ s, s ∈ Window.openings period (w.map Window.start) (attempts key events) →
      Fits period s) :
    decisionsOn key (l.decisions events) =
      Window.rulings limit period w (attempts key events) := by
  induction events generalizing l last w with
  | nil => rfl
  | cons e es ih =>
      rw [List.pairwise_cons] at horder
      have hrest : ∀ c, .check c ∈ es → c.key = key →
          c.policy.limit = limit ∧ c.policy.period = period ∧ c.time % 1000 = 0 :=
        fun c hc => hpolicy c (List.mem_cons_of_mem _ hc)
      cases e with
      | sweep t =>
          have hnow : last ≤ t := hlast _ List.mem_cons_self
          exact ih (h.sweep hnow hroom.1) hrest horder.1 horder.2 hroom.2 hfits
      | check c =>
          have hnow : last ≤ c.time := hlast _ List.mem_cons_self
          by_cases hkey : c.key = key
          · obtain ⟨hlimit, hp, htime⟩ := hpolicy c List.mem_cons_self hkey
            rw [attempts_check_of_eq hkey] at hfits ⊢
            have hcurrent := h.current_fits hnow fun hnew =>
              ⟨by rw [Nat.add_mod, htime, hperiod], hfits _ (Window.mem_openings hnew _)⟩
            obtain ⟨hdecision, hshows⟩ :=
              h.check hkey hlimit hp hnow hcurrent.1 hcurrent.2
            rw [decisionsOn_check_of_eq hkey, Window.rulings, hdecision]
            congr 1
            refine ih hshows hrest horder.1 horder.2 hroom fun s hs => hfits s ?_
            rw [Option.map_some, Window.start_rule] at hs
            exact Window.mem_openings_cons hs
          · rw [attempts_check_of_ne hkey] at hfits ⊢
            rw [decisionsOn_check_of_ne hkey]
            exact ih (h.check_of_ne hkey hnow) hrest horder.1 horder.2 hroom hfits

end Shows

end Refinement

/-- Without sweeps there is always room. -/
theorem Limiter.roomy_checks (l : Limiter) (events : List Event) :
    l.Roomy (events.filter Event.isCheck) := by
  induction events generalizing l with
  | nil => trivial
  | cons e es ih =>
      cases e with
      | check c => exact ih _
      | sweep t => exact ih l

/-- The checks under a key do not depend on sweeps. -/
theorem attempts_checks (key : String) (events : List Event) :
    attempts key (events.filter Event.isCheck) = attempts key events := by
  induction events with
  | nil => rfl
  | cons e es ih =>
      cases e with
      | check c =>
          have hkeep : (Event.check c :: es).filter Event.isCheck =
              .check c :: es.filter Event.isCheck := rfl
          rw [hkeep]
          by_cases hkey : c.key = key
          · rw [attempts_check_of_eq hkey, attempts_check_of_eq hkey, ih]
          · rw [attempts_check_of_ne hkey, attempts_check_of_ne hkey, ih]
      | sweep t => exact ih

/-- Checks come in the order of the clock, under any key. -/
theorem pairwise_attempts
    {events : List Event}
    (horder : events.Pairwise fun e e' => e.time ≤ e'.time)
    (key : String) :
    (attempts key events).Pairwise (· ≤ ·) := by
  refine List.Pairwise.filterMap _ ?_ horder
  intro e e' hle t ht t' ht'
  cases e with
  | sweep _ => cases ht
  | check c =>
      cases e' with
      | sweep _ => cases ht'
      | check c' =>
          simp only [Option.ite_none_right_eq_some, Option.some.injEq] at ht ht'
          rw [← ht.2, ← ht'.2]
          exact hle

/--
Where the windows of a key fit, the decisions on the checks under it are those of the plain fixed
window, with the sweeps and without them.
-/
theorem decisionsOn_eq_of_fits
    {l : Limiter}
    {key : String}
    {limit : Nat}
    {period : Duration}
    {events : List Event}
    (hnew : l.counters[key]? = none)
    (hperiod : period % 1000 = 0)
    (hpolicy : ∀ c, .check c ∈ events → c.key = key →
      c.policy.limit = limit ∧ c.policy.period = period ∧ c.time % 1000 = 0)
    (horder : events.Pairwise fun e e' => e.time ≤ e'.time)
    (hroom : l.Roomy events)
    (hfits : ∀ s, s ∈ Window.openings period none (attempts key events) → Fits period s) :
    decisionsOn key (l.decisions events) =
      Window.rulings limit period none (attempts key events) ∧
    decisionsOn key (l.decisions (events.filter Event.isCheck)) =
      Window.rulings limit period none (attempts key events) := by
  have hfresh : Shows period 0 l.counters[key]? none := by
    rw [hnew]
    exact .fresh
  refine ⟨hfresh.decisionsOn_eq hperiod hpolicy (fun _ _ => Nat.zero_le _) horder hroom hfits, ?_⟩
  rw [← attempts_checks] at hfits ⊢
  exact hfresh.decisionsOn_eq hperiod (fun c hc => hpolicy c (List.mem_filter.1 hc).1)
    (fun _ _ => Nat.zero_le _) (horder.filter _) (l.roomy_checks events) hfits

/-- A check under the key comes at each of its attempts. -/
theorem exists_check_of_mem_attempts
    {key : String}
    {events : List Event}
    {t : Instant}
    (h : t ∈ attempts key events) :
    ∃ c, .check c ∈ events ∧ c.key = key ∧ c.time = t := by
  obtain ⟨e, he, ht⟩ := List.mem_filterMap.1 h
  cases e with
  | sweep _ => cases ht
  | check c =>
      simp only [Option.ite_none_right_eq_some, Option.some.injEq] at ht
      exact ⟨c, he, ht⟩

/--
Take the checks under a key that has no counter yet, with one limit and one period for all of them,
at whole microseconds that the clock of a process can read. However checks under other keys and
sweeps come in between, as long as no sweep has to drop open windows, the decisions are those of the
plain fixed window. So they are the same without the sweeps, and no stretch of time as long as a
window holds more than twice the limit.
-/
theorem decides_as_window
    {l : Limiter}
    {key : String}
    {limit : Nat}
    {period : Duration}
    {events : List Event}
    (hnew : l.counters[key]? = none)
    (hperiod : period % 1000 = 0)
    (hshort : InFirstHalf period)
    (hpolicy : ∀ c, .check c ∈ events → c.key = key →
      c.policy.limit = limit ∧ c.policy.period = period)
    (hclock : ∀ c, .check c ∈ events → c.key = key → c.time % 1000 = 0 ∧ InFirstHalf c.time)
    (horder : events.Pairwise fun e e' => e.time ≤ e'.time)
    (hroom : l.Roomy events) :
    decisionsOn key (l.decisions events) =
      Window.rulings limit period none (attempts key events) ∧
    decisionsOn key (l.decisions (events.filter Event.isCheck)) =
      decisionsOn key (l.decisions events) ∧
    ∀ a, Window.admissions a period (decisionsOn key (l.decisions events)) ≤ 2 * limit := by
  have hwhole : ∀ c, .check c ∈ events → c.key = key →
      c.policy.limit = limit ∧ c.policy.period = period ∧ c.time % 1000 = 0 := by
    intro c hc hkey
    obtain ⟨hlimit, hp⟩ := hpolicy c hc hkey
    exact ⟨hlimit, hp, (hclock c hc hkey).1⟩
  have hfits : ∀ s, s ∈ Window.openings period none (attempts key events) → Fits period s := by
    intro s hs
    obtain ⟨c, hc, hkey, rfl⟩ := exists_check_of_mem_attempts (Window.mem_of_mem_openings hs)
    exact fits_of_inFirstHalf (hclock c hc hkey).2 hshort
  obtain ⟨hswept, hunswept⟩ := decisionsOn_eq_of_fits hnew hperiod hwhole horder hroom hfits
  refine ⟨hswept, hunswept.trans hswept.symm, fun a => ?_⟩
  rw [hswept]
  exact Window.admissions_rulings_le limit period (pairwise_attempts horder key) a

section Instances

/-- One call in a second. -/
def oncePerSecond : Policy where
  clientIdHeader := ⟨"clientid"⟩
  clientWhitelist := []
  period := 1000000000
  periodLabel := "1s"
  limit := 1
  disableHeaders := false
  quotaExceededMessage := defaultQuotaMessage
  statusCode := 429
  counterPrefix := "sluice"

/-- A check under this policy. -/
def checkAt (t : Instant) : Event := .check ⟨⟨oncePerSecond, "r", "c"⟩, t⟩

/-- A window, a sweep inside it, and a sweep and a check at the instant at which it ends. -/
def throughOneWindow : List Event :=
  [checkAt 0, .sweep 500000000, checkAt 999999000, .sweep 1000000000, checkAt 1000000000]

/-- The first and the last check are admitted, as in the reference. -/
theorem decides_as_window_through_one_window :
    decisionsOn "sluice:r:c" (({} : Limiter).decisions throughOneWindow) =
      [(0, ⟨true, 0, 1000000000⟩), (999999000, ⟨false, 0, 1000⟩),
        (1000000000, ⟨true, 0, 1000000000⟩)] := by
  have hchecks : ∀ c, .check c ∈ throughOneWindow →
      (c.policy.limit = 1 ∧ c.policy.period = 1000000000) ∧
        c.time % 1000 = 0 ∧ InFirstHalf c.time := by
    intro c hc
    simp only [throughOneWindow, checkAt, List.mem_cons, Event.check.injEq, reduceCtorEq,
      List.not_mem_nil, or_false, false_or] at hc
    rcases hc with rfl | rfl | rfl <;> decide
  have hnew : ({} : Limiter).counters["sluice:r:c"]? = none := by decide +kernel
  have h := decides_as_window hnew (by decide) (by decide) (fun c hc _ => (hchecks c hc).1)
    (fun c hc _ => (hchecks c hc).2) (by decide) (by decide +kernel)
  rw [h.1]
  decide +kernel

end Instances

end RateLimit
end ApiGateway
