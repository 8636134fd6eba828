import ApiGateway.RateLimit.Decision

/-!
# The plain fixed window

The reference for the rate limiter: one caller, one clock, no map and no sweeps. The first attempt
opens a window; an attempt inside a window is admitted as long as fewer than `limit` attempts were
admitted in it; the first attempt at or after its end opens the next one.

Main statement: `admissions_rulings_le` bounds the admissions in any stretch of time that is as long
as a window. Such a stretch meets two windows at most, since they do not overlap.
-/

namespace ApiGateway
namespace RateLimit

/-- A window: when it was opened and how many attempts were admitted in it so far. -/
structure Window where
  start : Instant
  admitted : Nat

namespace Window

section Reference

variable (limit : Nat)
variable (period : Duration)

/-- The window to which an attempt belongs. -/
def current (w : Option Window) (t : Instant) : Window :=
  match w with
  | none => ⟨t, 0⟩
  | some w => if t < w.start + period then w else ⟨t, 0⟩

/-- Decides on an attempt in its window. -/
def rule (w : Window) (t : Instant) : Window × Decision :=
  if w.admitted < limit then
    ({ w with admitted := w.admitted + 1 },
      ⟨true, limit - (w.admitted + 1), w.start + period - t⟩)
  else (w, ⟨false, 0, w.start + period - t⟩)

/-- Decides on attempts one after another. -/
def rulings (w : Option Window) : List Instant → List (Instant × Decision)
  | [] => []
  | t :: ts =>
      (t, (rule limit period (current period w t) t).2) ::
        rulings (some (rule limit period (current period w t) t).1) ts

/-- The instants at which windows are opened. -/
def openings (opened : Option Instant) : List Instant → List Instant
  | [] => []
  | t :: ts =>
      match opened with
      | none => t :: openings (some t) ts
      | some s => if t < s + period then openings (some s) ts else t :: openings (some t) ts

end Reference

/-- An attempt that finds no open window opens one. -/
theorem mem_openings
    {period : Duration}
    {w : Option Window}
    {t : Instant}
    (h : ∀ v, w = some v → v.start + period ≤ t)
    (ts : List Instant) :
    t ∈ openings period (w.map start) (t :: ts) := by
  cases w with
  | none => exact List.mem_cons_self
  | some v =>
      have hend : ¬ t < v.start + period := Nat.not_lt_of_le (h v rfl)
      rw [Option.map_some, openings]
      simp only [if_neg hend]
      exact List.mem_cons_self

/-- Windows that open after an attempt open after what was before it. -/
theorem mem_openings_cons
    {period : Duration}
    {w : Option Window}
    {s t : Instant}
    {ts : List Instant}
    (h : s ∈ openings period (some (current period w t).start) ts) :
    s ∈ openings period (w.map start) (t :: ts) := by
  cases w with
  | none => exact List.mem_cons_of_mem _ h
  | some v =>
      rw [Option.map_some, openings]
      unfold current at h
      by_cases hin : t < v.start + period
      · simp only [if_pos hin] at h ⊢
        exact h
      · simp only [if_neg hin] at h ⊢
        exact List.mem_cons_of_mem _ h

/-- Only attempts open windows. -/
theorem mem_of_mem_openings
    {period : Duration}
    {opened : Option Instant}
    {ts : List Instant}
    {s : Instant}
    (h : s ∈ openings period opened ts) :
    s ∈ ts := by
  induction ts generalizing opened with
  | nil => exact h
  | cons t ts ih =>
      have hopened {o : Option Instant} (h : s ∈ t :: openings period o ts) : s ∈ t :: ts :=
        (List.mem_cons.1 h).elim (· ▸ List.mem_cons_self) fun h => List.mem_cons_of_mem t (ih h)
      cases opened with
      | none => exact hopened h
      | some start =>
          simp only [openings] at h
          split at h
          · exact List.mem_cons_of_mem t (ih h)
          · exact hopened h

/-- How many attempts are admitted from one instant on, for a length of time. -/
def admissions (a : Instant) (length : Duration) (rs : List (Instant × Decision)) : Nat :=
  rs.countP fun r => r.2.allowed && decide (a ≤ r.1) && decide (r.1 < a + length)

section Bound

variable {limit : Nat}
variable {period : Duration}

/-- A window lasts, or a new one is opened. -/
theorem current_cases (period : Duration) (w : Window) (t : Instant) :
    (t < w.start + period ∧ current period (some w) t = w) ∨
    (w.start + period ≤ t ∧ current period (some w) t = ⟨t, 0⟩) := by
  by_cases h : t < w.start + period
  · exact Or.inl ⟨h, if_pos h⟩
  · exact Or.inr ⟨Nat.le_of_not_lt h, if_neg h⟩

/-- An attempt is admitted and counted while there is room, and denied after that. -/
theorem rule_cases (limit : Nat) (period : Duration) (w : Window) (t : Instant) :
    (w.admitted < limit ∧
      rule limit period w t =
        ({ w with admitted := w.admitted + 1 },
          ⟨true, limit - (w.admitted + 1), w.start + period - t⟩)) ∨
    (limit ≤ w.admitted ∧
      rule limit period w t = (w, ⟨false, 0, w.start + period - t⟩)) := by
  unfold rule
  by_cases h : w.admitted < limit
  · exact Or.inl ⟨h, if_pos h⟩
  · exact Or.inr ⟨Nat.le_of_not_lt h, if_neg h⟩

@[simp] theorem start_rule (w : Window) (t : Instant) :
    (rule limit period w t).1.start = w.start := by
  rcases rule_cases limit period w t with ⟨_, h⟩ | ⟨_, h⟩ <;> rw [h]

/--
What is known of the admissions in a stretch of time that were counted up to now. Those before it
count nothing; while the first window that it meets lasts, they are among those of this window; in
the next one, a full window may have been counted before.
-/
structure Counted (limit : Nat) (period a last : Nat) (w : Window) (n : Nat) : Prop where
  room : w.admitted ≤ limit
  started : w.start ≤ last
  early : last < a → n = 0
  first : w.start < a → n ≤ w.admitted
  second : a ≤ w.start → w.start < a + period → n ≤ limit + w.admitted
  total : n ≤ 2 * limit

namespace Counted

variable {a last n : Nat}
variable {w : Window}

/-- Time goes on to the next attempt, which may belong to a new window. -/
theorem current
    (h : Counted limit period a last w n)
    {t : Instant}
    (ht : last ≤ t) :
    Counted limit period a t (Window.current period (some w) t) n := by
  have hearly : t < a → n = 0 := fun hta => h.early (Nat.lt_of_le_of_lt ht hta)
  rcases current_cases period w t with ⟨_, hc⟩ | ⟨hend, hc⟩ <;> rw [hc]
  · exact ⟨h.room, Nat.le_trans h.started ht, hearly, h.first, h.second, h.total⟩
  · refine ⟨Nat.zero_le _, Nat.le_refl _, hearly, ?_, ?_, h.total⟩
    · exact fun hta => Nat.le_of_eq (hearly hta)
    · -- The window before this one was the first that the stretch met, if it met it at all.
      intro _ hta
      have hstart : w.start < a := Nat.lt_of_add_lt_add_right (Nat.lt_of_le_of_lt hend hta)
      exact Nat.le_trans (h.first hstart) h.room

/-- An attempt is decided on. -/
theorem rule
    {t : Instant}
    (h : Counted limit period a t w n) :
    Counted limit period a t (Window.rule limit period w t).1
      (n + admissions a period [(t, (Window.rule limit period w t).2)]) := by
  rcases rule_cases limit period w t with ⟨hroom, hr⟩ | ⟨_, hr⟩
  · have hearly := h.early
    have hfirst := h.first
    have hsecond := h.second
    have hstarted := h.started
    have htotal := h.total
    rw [hr]
    by_cases hcount : a ≤ t ∧ t < a + period
    · have hone : admissions a period
          [(t, ⟨true, limit - (w.admitted + 1), w.start + period - t⟩)] = 1 := by
        simp [admissions, hcount]
      have hsum : n + 1 ≤ 2 * limit := by
        rcases Nat.lt_or_ge w.start a with hs | hs
        · have hn := hfirst hs
          omega
        · have hn := hsecond hs (Nat.lt_of_le_of_lt hstarted hcount.2)
          omega
      rw [hone]
      exact ⟨hroom, hstarted, fun hta => absurd hcount.1 (Nat.not_le_of_lt hta),
        fun hs => Nat.succ_le_succ (hfirst hs), fun hs hs' => Nat.succ_le_succ (hsecond hs hs'),
        hsum⟩
    · have hzero : admissions a period
          [(t, ⟨true, limit - (w.admitted + 1), w.start + period - t⟩)] = 0 := by
        simp only [admissions, List.countP_singleton, Bool.true_and, Bool.and_eq_true,
          decide_eq_true_eq, if_neg hcount]
      rw [hzero, Nat.add_zero]
      exact ⟨hroom, hstarted, hearly, fun hs => Nat.le_succ_of_le (hfirst hs),
        fun hs hs' => Nat.le_succ_of_le (hsecond hs hs'), htotal⟩
  · rw [hr]
    have hzero : admissions a period [(t, ⟨false, 0, w.start + period - t⟩)] = 0 := by
      simp [admissions]
    rw [hzero, Nat.add_zero]
    exact h

/-- The count is kept until the last attempt. -/
theorem admissions_le
    (h : Counted limit period a last w n)
    {ts : List Instant}
    (hts : ts.Pairwise (· ≤ ·))
    (hlast : ∀ t, t ∈ ts → last ≤ t) :
    admissions a period (rulings limit period (some w) ts) + n ≤ 2 * limit := by
  induction ts generalizing last w n with
  | nil => exact (Nat.zero_add n).symm ▸ h.total
  | cons t ts ih =>
      rw [List.pairwise_cons] at hts
      have hnext := ih ((h.current (hlast t List.mem_cons_self)).rule) hts.2 hts.1
      rw [rulings, admissions, ← List.singleton_append, List.countP_append]
      simp only [admissions] at hnext ⊢
      omega

end Counted

/-- No stretch of time as long as a window holds more admissions than two windows. -/
theorem admissions_rulings_le
    (limit : Nat)
    (period : Duration)
    {ts : List Instant}
    (hts : ts.Pairwise (· ≤ ·))
    (a : Instant) :
    admissions a period (rulings limit period none ts) ≤ 2 * limit := by
  cases ts with
  | nil => exact Nat.zero_le _
  | cons t ts =>
      -- The first attempt finds no window, just as if one had been left behind unused.
      have hnone : Window.current period none t = Window.current period (some ⟨t, 0⟩) t := by
        rcases current_cases period ⟨t, 0⟩ t with ⟨_, h⟩ | ⟨_, h⟩ <;> rw [h] <;> rfl
      have hfresh : Counted limit period a t ⟨t, 0⟩ 0 :=
        ⟨Nat.zero_le _, Nat.le_refl _, fun _ => rfl, fun _ => Nat.zero_le _,
          fun _ _ => Nat.zero_le _, Nat.zero_le _⟩
      have hlast : ∀ t', t' ∈ t :: ts → t ≤ t' := by
        intro t' ht'
        rcases List.mem_cons.1 ht' with rfl | ht'
        · exact Nat.le_refl _
        · exact (List.pairwise_cons.1 hts).1 t' ht'
      have h := hfresh.admissions_le hts hlast
      rw [rulings, hnone]
      exact h

end Bound

end Window
end RateLimit
end ApiGateway
