import ApiGateway.Proofs.RateLimit.Refinement
import Mathlib.Data.List.Induction

/-!
# What sweeps forget

A sweep drops the counters whose time is over by its own clock: the deadline that was noted when
the window opened, in microseconds and in 64 bits. An attempt goes by the start of the window and
by the period of the policy that is in force now. The two disagree if the deadline was rounded down
or has gone round the clock, or if the period has become longer since; the sweep then drops a
counter that would have gone on counting (`Limiter.Forgets`), and its quota is there again.

Main statement: `answered_alike_iff` says that an attempt right after a sweep is answered as it
would have been without the sweep just when the sweep has not forgotten its window, and names the
checks whose windows are forgotten.
-/

namespace ApiGateway
namespace RateLimit

/-- A check has opened the window in which the counter is. -/
structure Counter.OpenedBy (c : Counter) (o : Check) : Prop where
  start : c.windowStart = o.time
  deadline : c.windowEndMicros = microReading (o.time + o.policy.period)

namespace Limiter

/-- The window under a key was opened by a check. -/
def InWindowOf (l : Limiter) (key : String) (o : Check) : Prop :=
  ∃ c, l.counters[key]? = some c ∧ c.OpenedBy o

/-- A sweep drops the counter of a caller, although an attempt would not reset it. -/
def Forgets (l : Limiter) (t : Instant) (caller : Caller) : Prop :=
  ∃ c,
    l.counters[caller.key]? = some c ∧
    (l.evictStale t).counters[caller.key]? = none ∧
    t - c.windowStart < caller.policy.period

section Dropping

/-- To erase keys takes the counters under them and no others. -/
theorem getElem?_foldl_erase
    (keys : List String)
    (counters : Std.ExtTreeMap String Counter compare)
    (key : String) :
    (keys.foldl (fun m k => m.erase k) counters)[key]? =
      if key ∈ keys then none else counters[key]? := by
  induction keys generalizing counters with
  | nil => simp
  | cons k ks ih =>
      rw [List.foldl_cons, ih, Std.ExtTreeMap.getElem?_erase]
      by_cases hks : key ∈ ks
      · simp [hks]
      · by_cases hk : key = k
        · simp [hk]
        · simp [hks, hk, Ne.symm hk]

/-- A sweep brings no counter in and changes none, whether there is room or not. -/
theorem getElem?_of_evictStale
    {l : Limiter}
    {t : Instant}
    {key : String}
    {c : Counter}
    (h : (l.evictStale t).counters[key]? = some c) :
    l.counters[key]? = some c := by
  have hopen : (l.dropClosed t).counters[key]? = some c := by
    unfold evictStale dropOverflow at h
    by_cases hsize : (l.dropClosed t).size ≤ maxCounters
    · rw [if_pos hsize] at h
      exact h
    · rw [if_neg hsize] at h
      generalize (l.dropClosed t).keysByEnd.take _ = keys at h
      rw [getElem?_foldl_erase] at h
      split at h
      · cases h
      · exact h
  rw [dropClosed, Std.ExtTreeMap.getElem?_filter', Option.filter_eq_some_iff] at hopen
  exact hopen.1

/-- With room, a sweep drops the counter under a key if its deadline has been read. -/
theorem getElem?_evictStale_eq_none_iff
    {l : Limiter}
    {t : Instant}
    (hroom : (l.dropClosed t).size ≤ maxCounters)
    {key : String}
    {c : Counter}
    (hc : l.counters[key]? = some c) :
    (l.evictStale t).counters[key]? = none ↔ c.windowEndMicros ≤ microReading t := by
  rw [l.getElem?_evictStale hroom, hc, Option.filter_eq_none_iff]
  constructor
  · intro h
    exact Nat.le_of_not_lt fun hlt => h c rfl (decide_eq_true hlt)
  · rintro h _ ⟨⟩ hlt
    exact absurd (of_decide_eq_true hlt) (Nat.not_lt_of_le h)

end Dropping

end Limiter

section Origins

/-- An attempt stays in the window of the counter or opens one of its own. -/
theorem Counter.attempt_window
    (c : Counter)
    (p : Policy)
    (now : Instant) :
    ((c.attempt p now).1.windowStart = c.windowStart ∧
      (c.attempt p now).1.windowEndMicros = c.windowEndMicros) ∨
    ((c.attempt p now).1.windowStart = now ∧
      (c.attempt p now).1.windowEndMicros = microReading (now + p.period)) := by
  have hrenewed : c.renewed p.period now = c ∨ c.renewed p.period now = .opened p.period now := by
    unfold renewed
    split
    · exact Or.inr rfl
    · exact Or.inl rfl
  rcases attempt_cases c p now with ⟨_, ha⟩ | ⟨_, ha⟩ <;> rw [ha]
  all_goals
    rcases hrenewed with hr | hr <;> rw [hr]
    · exact Or.inl ⟨rfl, rfl⟩
    · exact Or.inr ⟨rfl, rfl⟩

/-- A counter that has been asked has counted an attempt of its window. -/
theorem Counter.count_attempt_pos
    (c : Counter)
    {p : Policy}
    (hlimit : 0 < p.limit)
    (now : Instant) :
    0 < (c.attempt p now).1.count := by
  rcases attempt_cases c p now with ⟨hfull, ha⟩ | ⟨_, ha⟩ <;> rw [ha]
  · exact Nat.lt_of_lt_of_le hlimit hfull
  · exact Nat.succ_pos _

/-- What is known of a counter that a history has left behind under a key. -/
structure Left (events : List Event) (key : String) (c : Counter) : Prop where
  counted : 0 < c.count
  opened : ∃ o, .check o ∈ events ∧ o.key = key ∧ c.OpenedBy o

variable {events : List Event}
variable {key : String}
variable {c : Counter}

/--
What holds of the counter under a key at the start, and after each check of the key, holds of it in
the end: sweeps and other checks leave it or drop it.
-/
theorem forall_after
    {P : Counter → Prop}
    {l : Limiter}
    (hstart : ∀ c, l.counters[key]? = some c → P c)
    (hask : ∀ o, .check o ∈ events → o.key = key →
      ∀ c, c = .opened o.policy.period o.time ∨ P c → P (c.attempt o.policy o.time).1)
    (hc : (l.after events).counters[key]? = some c) :
    P c := by
  induction events generalizing l with
  | nil => exact hstart c hc
  | cons e es ih =>
      refine ih (l := l.meet e) ?_ (fun o ho => hask o (List.mem_cons_of_mem _ ho)) hc
      intro c hc
      cases e with
      | sweep t => exact hstart c (Limiter.getElem?_of_evictStale hc)
      | check o =>
          rw [Limiter.meet] at hc
          by_cases hkey : o.key = key
          · subst hkey
            rw [l.getElem?_ask_self] at hc
            cases hc
            refine hask o List.mem_cons_self rfl _ ?_
            unfold Limiter.answering Limiter.found
            cases hfound : l.counters[o.key]? with
            | none => exact Or.inl rfl
            | some found => exact Or.inr (hstart found hfound)
          · rw [l.getElem?_ask_of_ne o hkey] at hc
            exact hstart c hc

/-- Every counter of a limiter was opened by a check of its history. -/
theorem exists_openedBy_of_after
    (hc : (({} : Limiter).after events).counters[key]? = some c) :
    ∃ o, .check o ∈ events ∧ o.key = key ∧ c.OpenedBy o := by
  refine forall_after (P := fun c => ∃ o, .check o ∈ events ∧ o.key = key ∧ c.OpenedBy o)
    (by simp) ?_ hc
  intro o ho hkey c hcases
  rcases c.attempt_window o.policy o.time with ⟨hstart, hend⟩ | ⟨hstart, hend⟩
  · rcases hcases with rfl | ⟨o', ho', hkey', hopened⟩
    · exact ⟨o, ho, hkey, hstart, hend⟩
    · exact ⟨o', ho', hkey', hstart.trans hopened.start, hend.trans hopened.deadline⟩
  · exact ⟨o, ho, hkey, hstart, hend⟩

/-- Every counter of a limiter was opened by a check of its history and has counted. -/
theorem left_of_after
    (hlimits : ∀ c, .check c ∈ events → 0 < c.policy.limit)
    (hc : (({} : Limiter).after events).counters[key]? = some c) :
    Left events key c := by
  refine ⟨forall_after (P := fun c => 0 < c.count) (by simp) ?_ hc, exists_openedBy_of_after hc⟩
  intro o ho _ c _
  exact c.count_attempt_pos (hlimits o ho) o.time

end Origins

section Answers

variable {t : Instant}

theorem ask_snd_eq (l : Limiter) (caller : Caller) (t : Instant) :
    (l.ask ⟨caller, t⟩).2 =
      (((l.counters[caller.key]?).getD (.opened caller.policy.period t)).attempt
        caller.policy t).2 :=
  rfl

/-- Where the window is over, a counter answers as none does. -/
theorem Counter.attempt_of_over
    (c : Counter)
    {p : Policy}
    (h : p.period ≤ t - c.windowStart) :
    c.attempt p t = (Counter.opened p.period t).attempt p t := by
  unfold attempt
  rw [renewed_opened, renewed, if_pos h]

/-- Where the window goes on and something was counted in it, a counter answers otherwise. -/
theorem Counter.attempt_ne_of_counted
    {c : Counter}
    {p : Policy}
    (hlimit : 0 < p.limit)
    (hcounted : 0 < c.count)
    (h : t - c.windowStart < p.period) :
    (c.attempt p t).2 ≠ ((Counter.opened p.period t).attempt p t).2 := by
  have hkept : c.renewed p.period t = c := if_neg (Nat.not_le_of_lt h)
  rw [Counter.attempt_opened _ _ hlimit]
  intro hsame
  rcases attempt_cases c p t with ⟨_, ha⟩ | ⟨hroom, ha⟩
  · rw [ha] at hsame
    cases hsame
  · rw [hkept] at hroom
    rw [ha, hkept] at hsame
    have hremaining : p.limit - (c.count + 1) = p.limit - 1 := congrArg Decision.remaining hsame
    omega

end Answers

section Harmless

variable {events : List Event}
variable {caller : Caller}
variable {t : Instant}

/-- The windows that a sweep forgets, by the checks that have opened them. -/
theorem forgets_iff
    (hlimits : ∀ c, .check c ∈ events → 0 < c.policy.limit)
    (hroom : ((({} : Limiter).after events).dropClosed t).size ≤ maxCounters) :
    (({} : Limiter).after events).Forgets t caller ↔
      ∃ o,
        .check o ∈ events ∧
        o.key = caller.key ∧
        (({} : Limiter).after events).InWindowOf caller.key o ∧
        microReading (o.time + o.policy.period) ≤ microReading t ∧
        t - o.time < caller.policy.period := by
  constructor
  · rintro ⟨c, hc, hdropped, hgoes⟩
    obtain ⟨o, ho, hkey, hopened⟩ := (left_of_after hlimits hc).opened
    have hread := (Limiter.getElem?_evictStale_eq_none_iff hroom hc).1 hdropped
    exact ⟨o, ho, hkey, ⟨c, hc, hopened⟩, hopened.deadline ▸ hread, hopened.start ▸ hgoes⟩
  · rintro ⟨o, _, _, ⟨c, hc, hopened⟩, hread, hgoes⟩
    have hdropped := (Limiter.getElem?_evictStale_eq_none_iff hroom hc).2
      (hopened.deadline ▸ hread)
    exact ⟨c, hc, hdropped, hopened.start ▸ hgoes⟩

/--
Take any history of checks under limits that are not zero, whatever their periods, and a sweep that
finds room. An attempt at the instant of the sweep, under whatever policy is in force now, is
answered as it would have been without the sweep if and only if the sweep has not forgotten its
window. The windows that a sweep forgets are those of the checks whose deadline, as it was noted
when they opened the window, is not after the reading of the sweep, while less than the period that
is in force now has gone by.
-/
theorem answered_alike_iff
    (hlimits : ∀ c, .check c ∈ events → 0 < c.policy.limit)
    (hroom : ((({} : Limiter).after events).dropClosed t).size ≤ maxCounters)
    (hlimit : 0 < caller.policy.limit) :
    ((((({} : Limiter).after events).evictStale t).ask ⟨caller, t⟩).2 =
        ((({} : Limiter).after events).ask ⟨caller, t⟩).2 ↔
      ¬ (({} : Limiter).after events).Forgets t caller) ∧
    ((({} : Limiter).after events).Forgets t caller ↔
      ∃ o,
        .check o ∈ events ∧
        o.key = caller.key ∧
        (({} : Limiter).after events).InWindowOf caller.key o ∧
        microReading (o.time + o.policy.period) ≤ microReading t ∧
        t - o.time < caller.policy.period) := by
  refine ⟨?_, forgets_iff hlimits hroom⟩
  have hleft : ∀ c, (({} : Limiter).after events).counters[caller.key]? = some c →
      Left events caller.key c :=
    fun _ => left_of_after hlimits
  generalize ({} : Limiter).after events = l at hroom hleft
  constructor
  · rintro hsame ⟨c, hc, hdropped, hgoes⟩
    rw [ask_snd_eq, ask_snd_eq, hdropped, hc, Option.getD_none, Option.getD_some] at hsame
    exact Counter.attempt_ne_of_counted hlimit (hleft c hc).counted hgoes hsame.symm
  · intro hkeeps
    cases hc : l.counters[caller.key]? with
    | none => rw [ask_snd_eq, ask_snd_eq, l.getElem?_evictStale hroom, hc, Option.filter_none]
    | some c =>
        cases hswept : (l.evictStale t).counters[caller.key]? with
        | some c' => rw [ask_snd_eq, ask_snd_eq, hswept, Limiter.getElem?_of_evictStale hswept]
        | none =>
            have hover : caller.policy.period ≤ t - c.windowStart :=
              Nat.le_of_not_lt fun hgoes => hkeeps ⟨c, hc, hswept, hgoes⟩
            rw [ask_snd_eq, ask_snd_eq, hswept, hc, Option.getD_none, Option.getD_some,
              c.attempt_of_over hover]

/--
A sweep forgets nothing of a caller whose period has not become longer, as long as the windows under
its key end on whole microseconds and in the round of the clock in which they begin.
-/
theorem not_forgets_of_fits
    (hlimits : ∀ c, .check c ∈ events → 0 < c.policy.limit)
    (hroom : ((({} : Limiter).after events).dropClosed t).size ≤ maxCounters)
    (hpast : ∀ o, .check o ∈ events → o.key = caller.key →
      o.time ≤ t ∧
      caller.policy.period ≤ o.policy.period ∧
      (o.time + o.policy.period) % 1000 = 0 ∧
      Fits o.policy.period o.time) :
    ¬ (({} : Limiter).after events).Forgets t caller := by
  intro hforgets
  obtain ⟨o, ho, hkey, _, hread, hgoes⟩ := (forgets_iff hlimits hroom).1 hforgets
  obtain ⟨htime, hperiod, hwhole, hfits⟩ := hpast o ho hkey
  have hover : o.time + o.policy.period ≤ t := end_le_of_reading_le htime hwhole hfits hread
  have hlong : o.policy.period ≤ t - o.time := Nat.le_sub_of_add_le' hover
  exact Nat.not_lt_of_le (Nat.le_trans hperiod hlong) hgoes

end Harmless

section Reloaded

/-- A call in a second has become a call in an hour. -/
def oncePerHour : Policy :=
  { oncePerSecond with period := 3600000000000, periodLabel := "1h" }

/--
The window was opened for a second; two seconds later the policy in force has an hour. Without the
sweep the second call is denied, with it the quota is there again.
-/
theorem answered_alike_iff_oncePerHour :
    ((({} : Limiter).after [checkAt 0]).ask ⟨⟨oncePerHour, "r", "c"⟩, 2000000000⟩).2 =
      ⟨false, 0, 3598000000000⟩ ∧
    (((({} : Limiter).after [checkAt 0]).evictStale 2000000000).ask
        ⟨⟨oncePerHour, "r", "c"⟩, 2000000000⟩).2 ≠
      ((({} : Limiter).after [checkAt 0]).ask ⟨⟨oncePerHour, "r", "c"⟩, 2000000000⟩).2 := by
  have hlimits : ∀ c, .check c ∈ [checkAt 0] → 0 < c.policy.limit := by
    intro c hc
    cases List.mem_singleton.1 hc
    decide
  have hroom : ((({} : Limiter).after [checkAt 0]).dropClosed 2000000000).size ≤ maxCounters := by
    decide +kernel
  have hwindow : (({} : Limiter).after [checkAt 0]).InWindowOf "sluice:r:c"
      ⟨⟨oncePerSecond, "r", "c"⟩, 0⟩ :=
    ⟨⟨0, 1, 1000000⟩, by decide +kernel, rfl, rfl⟩
  obtain ⟨halike, hforgets⟩ :=
    @answered_alike_iff [checkAt 0] ⟨oncePerHour, "r", "c"⟩ 2000000000 hlimits hroom (by decide)
  refine ⟨by decide +kernel, fun hsame => halike.1 hsame (hforgets.2 ?_)⟩
  exact ⟨⟨⟨oncePerSecond, "r", "c"⟩, 0⟩, List.mem_singleton_self _, rfl, hwindow, by decide,
    by decide⟩

end Reloaded

end RateLimit
end ApiGateway
