import ApiGateway.Proofs.Breaker.Watch

/-!
# Failures in a window

A closed breaker keeps one count of failures and the start of one window. A failure later than the
window begins the next one, with a count of one; what was counted before is forgotten, however short
a time ago it happened. So the windows follow one another and do not move along with the failures.

Main statements: `opened_iff_of_failures` says exactly when as many failures as the threshold, in a
span no longer than a window, open a closed breaker; `opened_of_failures` says that twice as many
less one always do.
-/

namespace ApiGateway
namespace Breaker

/-- The count of failures and the start of their window, after more failures. -/
def tally (settings : BreakerSettings) :
    Nat × Option Instant → List Instant → Nat × Option Instant
  | counted, [] => counted
  | counted, t :: ts =>
      let next := ({ settings } : Breaker).countFailure counted.1 counted.2 t
      tally settings (next.1, some next.2) ts

def failures (notes : List Note) : List Instant := notes.filterMap Note.failure?

section Counting

variable {settings : BreakerSettings}

theorem tally_append (counted : Nat × Option Instant) (ts us : List Instant) :
    tally settings counted (ts ++ us) = tally settings (tally settings counted ts) us := by
  induction ts generalizing counted with
  | nil => rfl
  | cons t ts ih => exact ih _

theorem one_le_countFailure
    (b : Breaker)
    (count : Nat)
    (windowStart : Option Instant)
    (t : Instant) :
    1 ≤ (b.countFailure count windowStart t).1 := by
  unfold countFailure
  split
  · split
    · exact Nat.le_add_left 1 count
    · exact Nat.le_refl 1
  · exact Nat.le_refl 1

/-- Failures in the window are added up. -/
theorem tally_within
    {start : Instant}
    {ts : List Instant}
    (h : ∀ t, t ∈ ts → t - start ≤ settings.failureWindow)
    (count : Nat) :
    tally settings (count, some start) ts = (count + ts.length, some start) := by
  induction ts generalizing count with
  | nil => rfl
  | cons t ts ih =>
      have ht := h t List.mem_cons_self
      have hrest := ih (fun u hu => h u (List.mem_cons_of_mem _ hu)) (count + 1)
      simp only [tally, countFailure, if_pos ht, hrest, List.length_cons]
      congr 1
      omega

/--
The first failure that is later than the window begins the next one, and in a span no longer than a
window nothing is later than that.
-/
theorem tally_renewed
    {start earliest t : Instant}
    {front back : List Instant}
    (hspan : ∀ u, u ∈ front ++ t :: back →
      earliest ≤ u ∧ u ≤ earliest + settings.failureWindow)
    (hfront : ∀ u, u ∈ front → u - start ≤ settings.failureWindow)
    (ht : ¬ t - start ≤ settings.failureWindow)
    (count : Nat) :
    tally settings (count, some start) (front ++ t :: back) = (1 + back.length, some t) := by
  have hearliest : earliest ≤ t :=
    (hspan t (List.mem_append_right _ List.mem_cons_self)).1
  have hback : ∀ u, u ∈ back → u - t ≤ settings.failureWindow := by
    intro u hu
    refine Nat.sub_le_iff_le_add.2 ?_
    calc u ≤ earliest + settings.failureWindow :=
          (hspan u (List.mem_append_right _ (List.mem_cons_of_mem _ hu))).2
      _ ≤ t + settings.failureWindow := Nat.add_le_add_right hearliest _
      _ = settings.failureWindow + t := Nat.add_comm _ _
  rw [tally_append, tally_within hfront]
  simp only [tally, countFailure, if_neg ht]
  exact tally_within hback 1

theorem exists_beyond
    {start : Instant}
    {ts : List Instant}
    (h : ¬ ∀ t, t ∈ ts → t - start ≤ settings.failureWindow) :
    ∃ front t back,
      ts = front ++ t :: back ∧
      (∀ u, u ∈ front → u - start ≤ settings.failureWindow) ∧
      ¬ t - start ≤ settings.failureWindow := by
  cases hfind : ts.find? fun t => ¬ t - start ≤ settings.failureWindow with
  | none =>
      refine absurd (fun t ht => ?_) h
      simpa using List.find?_eq_none.1 hfind t ht
  | some t =>
      obtain ⟨ht, front, back, hts, hfront⟩ := List.find?_eq_some_iff_append.1 hfind
      refine ⟨front, t, back, hts, fun u hu => ?_, of_decide_eq_true ht⟩
      simpa using hfront u hu

end Counting

namespace Watch

section Closed

variable {w : Watch}

theorem length_failures_notes (w : Watch) (e : Event) : (failures (w.notes e)).length ≤ 1 := by
  cases e with
  | ask now => exact Nat.zero_le 1
  | elsewhere => exact Nat.zero_le 1
  | settle call succeeded now =>
      cases hpending : w.pending? call <;> cases succeeded <;>
        simp [notes, hpending, failures, Note.failure?]

/-- Only a success closes a breaker; one that is closed without has counted its failures. -/
theorem closed_before
    {e : Event}
    {count : Nat}
    {windowStart : Option Instant}
    (hclosed : (w.meet e).breaker.state = .closed count windowStart)
    (hnone : ∀ n, n ∈ w.notes e → n.succeeds = false) :
    ∃ count₀ windowStart₀,
      w.breaker.state = .closed count₀ windowStart₀ ∧
      (count, windowStart) =
        tally w.breaker.settings (count₀, windowStart₀) (failures (w.notes e)) ∧
      (failures (w.notes e) ≠ [] → count < w.breaker.settings.failureThreshold) := by
  cases e with
  | elsewhere => exact ⟨count, windowStart, hclosed, rfl, fun h => absurd rfl h⟩
  | ask now =>
      simp only [meet] at hclosed
      cases w.breaker.checked_check now with
      | passed hstate hr =>
          rw [hr] at hclosed
          exact ⟨count, windowStart, hclosed, rfl, fun h => absurd rfl h⟩
      | refused hstate _ hr => simp [hr, hstate] at hclosed
      | entered _ _ hr => simp [hr] at hclosed
      | tried _ _ hr => simp [hr] at hclosed
      | full hstate _ hr => simp [hr, hstate] at hclosed
  | settle call succeeded now =>
      cases hpending : w.pending? call with
      | none =>
          simp only [meet, hpending] at hclosed
          refine ⟨count, windowStart, hclosed, ?_, ?_⟩
          · simp [notes, hpending, failures, tally]
          · simp [notes, hpending, failures]
      | some probe =>
          have hfailed : succeeded = false := by
            simpa [notes, hpending, Note.succeeds] using hnone
          subst hfailed
          simp only [meet, hpending] at hclosed
          cases w.breaker.recorded_record probe false now with
          | counted hstate _ hfew hr =>
              rw [hr] at hclosed
              cases hclosed
              refine ⟨_, _, hstate, ?_, fun _ => hfew⟩
              simp [notes, hpending, failures, Note.failure?, tally, countFailure]
          | reset _ h _ => cases h
          | recovered _ _ h _ => cases h
          | opened _ _ _ hr => simp [hr, Breaker.opened] at hclosed
          | reopened _ _ _ hr => simp [hr, Breaker.opened] at hclosed
          | ignored hstate _ hr => simp [hr, hstate] at hclosed
          | late hstate hr => simp [hr, hstate] at hclosed

/-- A breaker that is closed after events without a success has counted their failures. -/
theorem tally_of_closed
    {events : List Event}
    {count : Nat}
    {windowStart : Option Instant}
    (hclosed : (w.after events).breaker.state = .closed count windowStart)
    (hnone : ∀ n, n ∈ w.history events → n.succeeds = false) :
    ∃ count₀ windowStart₀,
      w.breaker.state = .closed count₀ windowStart₀ ∧
      (count, windowStart) =
        tally w.breaker.settings (count₀, windowStart₀) (failures (w.history events)) ∧
      ∀ front back, failures (w.history events) = front ++ back → front ≠ [] →
        (tally w.breaker.settings (count₀, windowStart₀) front).1
          < w.breaker.settings.failureThreshold := by
  induction events generalizing w with
  | nil =>
      refine ⟨count, windowStart, hclosed, rfl, ?_⟩
      intro front back h hne
      exact absurd (List.append_eq_nil_iff.1 h.symm).1 hne
  | cons e es ih =>
      simp only [history, List.mem_append] at hnone
      obtain ⟨count₁, windowStart₁, hmid, hcount, hprefix⟩ :=
        ih hclosed fun n hn => hnone n (Or.inr hn)
      obtain ⟨count₀, windowStart₀, hstate, hfirst, hfew⟩ :=
        closed_before hmid fun n hn => hnone n (Or.inl hn)
      rw [settings_meet] at hcount hprefix
      have hsplit : failures (w.history (e :: es)) =
          failures (w.notes e) ++ failures ((w.meet e).history es) :=
        List.filterMap_append
      refine ⟨count₀, windowStart₀, hstate, ?_, ?_⟩
      · rw [hsplit, tally_append, ← hfirst, hcount]
      · intro front back h hne
        rw [hsplit] at h
        rcases List.append_eq_append_iff.1 h with ⟨middle, rfl, hrest⟩ | ⟨middle, hnotes, _⟩
        · rw [tally_append, ← hfirst]
          cases middle with
          | nil =>
              rw [List.append_nil] at hne
              exact hfew hne
          | cons t middle => exact hprefix _ back hrest (List.cons_ne_nil t middle)
        · -- an event has one failure at most, so this is the whole of it
          have hmiddle : middle = [] := by
            cases front with
            | nil => exact absurd rfl hne
            | cons t front =>
                have hlength := length_failures_notes w e
                rw [hnotes, List.length_append, List.length_cons] at hlength
                exact List.eq_nil_of_length_eq_zero (by omega)
          rw [hmiddle, List.append_nil] at hnotes
          rw [← hnotes, ← hfirst]
          exact hfew (hnotes ▸ hne)

end Closed

/-- The start of the window in which a closed breaker counts a failure. -/
def windowAt (w : Watch) (t : Instant) : Instant :=
  match w.breaker.state with
  | .closed count windowStart => (w.breaker.countFailure count windowStart t).2
  | _ => t

/--
Failures that settle at a closed breaker with no success between them, the last one at the end. A
breaker that is closed before the last one was closed all along, since only a success closes it.
-/
structure Streak (w : Watch) (events : List Event) (call : Nat) : Prop where
  closed : ∃ count windowStart, (w.after events).breaker.state = .closed count windowStart
  unbroken : ∀ n, n ∈ w.history events → n.succeeds = false
  pending : ((w.after events).pending? call).isSome

namespace Streak

variable {w : Watch}
variable {events : List Event}
variable {call : Nat}

theorem begins (h : Streak w events call) :
    ∃ count windowStart, w.breaker.state = .closed count windowStart := by
  obtain ⟨count', windowStart', hclosed⟩ := h.closed
  obtain ⟨count, windowStart, hstate, _, _⟩ := tally_of_closed hclosed h.unbroken
  exact ⟨count, windowStart, hstate⟩

/-- The instants of all failures of a streak. -/
theorem failures_eq
    (h : Streak w events call)
    (last : Instant) :
    failures (w.history (events ++ [.settle call false last])) =
      failures (w.history events) ++ [last] := by
  obtain ⟨probe, hprobe⟩ := Option.isSome_iff_exists.1 h.pending
  rw [history_append]
  simp [failures, history, notes, hprobe, Note.failure?]

theorem unbroken_last
    (h : Streak w events call)
    (last : Instant) :
    ∀ n, n ∈ w.history (events ++ [.settle call false last]) → n.succeeds = false := by
  obtain ⟨probe, hprobe⟩ := Option.isSome_iff_exists.1 h.pending
  intro n hn
  rw [history_append, List.mem_append] at hn
  rcases hn with hn | hn
  · exact h.unbroken n hn
  · simp only [history, notes, hprobe, List.append_nil, List.mem_singleton] at hn
    rw [hn]
    rfl

/-- The last failure of a streak opens the breaker, or it stays closed with a smaller count. -/
theorem opened_or_closed
    (h : Streak w events call)
    (last : Instant) :
    (∃ retryAt,
      (w.after (events ++ [.settle call false last])).breaker.state = .opened retryAt) ∨
    ∃ count windowStart,
      (w.after (events ++ [.settle call false last])).breaker.state =
        .closed count windowStart := by
  obtain ⟨count, windowStart, hclosed⟩ := h.closed
  obtain ⟨probe, hprobe⟩ := Option.isSome_iff_exists.1 h.pending
  rw [after_append]
  generalize w.after events = v at hclosed hprobe
  simp only [after, List.foldl_cons, List.foldl_nil, meet, hprobe]
  cases v.breaker.recorded_record probe false last with
  | counted _ _ _ hr => exact Or.inr ⟨_, _, by rw [hr]⟩
  | opened _ _ _ hr => exact Or.inl ⟨_, by rw [hr]; rfl⟩
  | reset _ hsucceeded _ => cases hsucceeded
  | recovered hstate _ _ _ => simp [hstate] at hclosed
  | reopened hstate _ _ _ => simp [hstate] at hclosed
  | ignored hstate _ _ => simp [hstate] at hclosed
  | late hstate _ => simp [hstate] at hclosed

/-- A breaker that a streak leaves closed has counted less than the threshold all along. -/
theorem tally_lt
    (h : Streak w events call)
    {last : Instant}
    {count : Nat}
    {windowStart : Option Instant}
    (hstate : w.breaker.state = .closed count windowStart)
    (hclosed : ∃ count' windowStart',
      (w.after (events ++ [.settle call false last])).breaker.state =
        .closed count' windowStart')
    (front back : List Instant)
    (hfailures : failures (w.history events) ++ [last] = front ++ back)
    (hne : front ≠ []) :
    (tally w.breaker.settings (count, windowStart) front).1
      < w.breaker.settings.failureThreshold := by
  obtain ⟨count', windowStart', hclosed⟩ := hclosed
  obtain ⟨count₀, windowStart₀, hstate₀, _, hprefix⟩ :=
    tally_of_closed hclosed (h.unbroken_last last)
  rw [hstate] at hstate₀
  cases hstate₀
  exact hprefix front back ((h.failures_eq last).trans hfailures) hne

/-- A streak that opens a breaker has reached the threshold with its last failure. -/
theorem le_tally
    (h : Streak w events call)
    {last retryAt : Instant}
    {count : Nat}
    {windowStart : Option Instant}
    (hstate : w.breaker.state = .closed count windowStart)
    (hopened :
      (w.after (events ++ [.settle call false last])).breaker.state = .opened retryAt) :
    w.breaker.settings.failureThreshold ≤
      (tally w.breaker.settings (count, windowStart)
        (failures (w.history events) ++ [last])).1 := by
  obtain ⟨count', windowStart', hclosed⟩ := h.closed
  obtain ⟨count₀, windowStart₀, hstate₀, hcount, _⟩ := tally_of_closed hclosed h.unbroken
  rw [hstate] at hstate₀
  cases hstate₀
  obtain ⟨probe, hprobe⟩ := Option.isSome_iff_exists.1 h.pending
  have hsettings := w.settings_after events
  rw [tally_append, ← hcount]
  rw [after_append] at hopened
  generalize w.after events = v at hclosed hprobe hopened hsettings
  simp only [after, List.foldl_cons, List.foldl_nil, meet, hprobe] at hopened
  rw [← hsettings]
  cases v.breaker.recorded_record probe false last with
  | opened hstate _ henough _ =>
      rw [hclosed] at hstate
      cases hstate
      exact henough
  | counted _ _ _ hr => simp [hr] at hopened
  | reset _ hsucceeded _ => cases hsucceeded
  | recovered hstate _ _ _ => simp [hstate] at hclosed
  | reopened hstate _ _ _ => simp [hstate] at hclosed
  | ignored hstate _ _ => simp [hstate] at hclosed
  | late hstate _ => simp [hstate] at hclosed

end Streak

/-- The failures of a streak but the first one are counted from its window on. -/
theorem tally_first
    {w : Watch}
    {count : Nat}
    {windowStart : Option Instant}
    (hstate : w.breaker.state = .closed count windowStart)
    (first : Instant)
    (rest : List Instant) :
    tally w.breaker.settings (count, windowStart) (first :: rest) =
      tally w.breaker.settings
        ((w.breaker.countFailure count windowStart first).1, some (w.windowAt first)) rest := by
  simp only [windowAt, hstate]
  rfl

section Completeness

variable {settings : BreakerSettings}
variable {before events : List Event}
variable {call : Nat}
variable {first last : Instant}
variable {rest : List Instant}

/--
As many failures as the threshold settle at a closed breaker, in a span no longer than the window
and with no success between them. The last one opens the breaker if and only if none of them is
later than the window in which the first one was counted.
-/
theorem opened_iff_of_failures
    (h : Streak ((new settings).after before) events call)
    (hfailures :
      failures (((new settings).after before).history events) ++ [last] = first :: rest)
    (hmany : rest.length + 1 = settings.failureThreshold)
    {earliest : Instant}
    (hspan : ∀ t, t ∈ first :: rest →
      earliest ≤ t ∧ t ≤ earliest + settings.failureWindow) :
    (∃ retryAt,
      ((new settings).after (before ++ events ++ [.settle call false last])).breaker.state =
        .opened retryAt) ↔
      ∀ t, t ∈ rest →
        t - ((new settings).after before).windowAt first ≤ settings.failureWindow := by
  have hsettings := (new settings).settings_after before
  rw [List.append_assoc, after_append]
  generalize (new settings).after before = w at h hfailures hsettings
  obtain ⟨count, windowStart, hstate⟩ := h.begins
  have hone := one_le_countFailure w.breaker count windowStart first
  have hfirst := tally_first hstate first rest
  rw [settings_new] at hsettings
  rw [hsettings] at hfirst
  constructor
  · rintro ⟨retryAt, hopened⟩
    have hle := h.le_tally hstate hopened
    rw [hfailures, hsettings, hfirst] at hle
    refine Decidable.byContradiction fun hbeyond => ?_
    obtain ⟨front, t, back, rfl, hfront, ht⟩ := exists_beyond hbeyond
    rw [tally_renewed (fun u hu => hspan u (List.mem_cons_of_mem _ hu)) hfront ht] at hle
    simp only [List.length_append, List.length_cons] at hmany
    omega
  · intro hwithin
    refine (h.opened_or_closed last).resolve_right fun hclosed => ?_
    have hlt := h.tally_lt hstate hclosed (first :: rest) []
      (by rw [hfailures, List.append_nil]) (List.cons_ne_nil first rest)
    rw [hsettings, hfirst, tally_within hwithin] at hlt
    omega

/--
Twice as many failures as the threshold less one, in a span no longer than the window and with no
success between them, always open a closed breaker.
-/
theorem opened_of_failures
    (h : Streak ((new settings).after before) events call)
    (hfailures :
      failures (((new settings).after before).history events) ++ [last] = first :: rest)
    (hmany : 2 * settings.failureThreshold ≤ rest.length + 2)
    {earliest : Instant}
    (hspan : ∀ t, t ∈ first :: rest →
      earliest ≤ t ∧ t ≤ earliest + settings.failureWindow) :
    ∃ retryAt,
      ((new settings).after (before ++ events ++ [.settle call false last])).breaker.state =
        .opened retryAt := by
  have hsettings := (new settings).settings_after before
  rw [List.append_assoc, after_append]
  generalize (new settings).after before = w at h hfailures hsettings
  obtain ⟨count, windowStart, hstate⟩ := h.begins
  have hone := one_le_countFailure w.breaker count windowStart first
  rw [settings_new] at hsettings
  refine (h.opened_or_closed last).resolve_right fun hclosed => ?_
  have hall := h.tally_lt hstate hclosed (first :: rest) []
    (by rw [hfailures, List.append_nil]) (List.cons_ne_nil first rest)
  rw [tally_first hstate, hsettings] at hall
  by_cases hwithin : ∀ t, t ∈ rest → t - w.windowAt first ≤ settings.failureWindow
  · rw [tally_within hwithin] at hall
    omega
  · -- each of the two windows that the span meets has less than the threshold
    obtain ⟨front, t, back, rfl, hfront, ht⟩ := exists_beyond hwithin
    have hfirst := h.tally_lt hstate hclosed (first :: front) (t :: back) hfailures
      (List.cons_ne_nil first front)
    rw [tally_first hstate, hsettings, tally_within hfront] at hfirst
    rw [tally_renewed (fun u hu => hspan u (List.mem_cons_of_mem _ hu)) hfront ht] at hall
    simp only [List.length_append, List.length_cons] at hmany
    omega

end Completeness

section Tumbling

/-- Three failures in ten open the breaker. -/
def threeInTen : BreakerSettings where
  failureThreshold := 3
  breakDuration := 100
  halfOpenTrials := 1
  failureWindow := 10

/-- A call that passes and fails at once. -/
def failAt (call : Nat) (now : Instant) : List Event :=
  [.ask now, .settle call false now]

/--
The last three of four failures are in a span of three and leave the breaker closed: the first one
had begun a window, and the third one is later than that.
-/
theorem opened_iff_of_failures_tumbling :
    let w := (new threeInTen).after (failAt 0 0)
    let events := failAt 1 9 ++ failAt 2 11 ++ [.ask 12]
    Streak w events 3 ∧
    failures (w.history events) ++ [12] = [9, 11, 12] ∧
    ¬ ∃ retryAt,
      ((new threeInTen).after (failAt 0 0 ++ events ++ [.settle 3 false 12])).breaker.state =
        .opened retryAt := by
  intro w events
  have hstreak : Streak w events 3 := ⟨⟨1, some 11, by decide⟩, by decide, by decide⟩
  have hfailures : failures (w.history events) ++ [12] = [9, 11, 12] := by decide
  refine ⟨hstreak, hfailures, ?_⟩
  have hspan : ∀ t, t ∈ [9, 11, 12] → 9 ≤ t ∧ t ≤ 9 + threeInTen.failureWindow := by decide
  rw [opened_iff_of_failures hstreak hfailures rfl hspan]
  decide

end Tumbling

end Watch
end Breaker
end ApiGateway
