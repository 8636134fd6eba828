import ApiGateway.Proofs.Breaker.Watch

/-!
# Who decides on a half-open breaker

A half-open breaker closes or opens again with the outcome of a trial. An outcome tells whether its
call is a trial, but not in which half-open period it was let pass. With several trials in a period,
one of them may outlive the period that another one has ended, and decide on a later one.

Main statement: `decided_by_trials` says that it is the pending trials, of whatever period, that
decide, and that these are those of the current period in all runs if and only if the settings let
one trial pass at most.
-/

namespace ApiGateway
namespace Breaker
namespace Watch

/--
In all runs a half-open breaker is left only with the outcome of a trial that was let pass since the
breaker became half-open, and outcomes of calls that were let pass before change nothing.
-/
def OwnTrialsDecide (settings : BreakerSettings) : Prop :=
  ∀ (events : List Event) (trials : Nat),
    let w := (new settings).after events
    w.breaker.state = .halfOpen trials →
    (∀ e, (∀ trials', (w.meet e).breaker.state ≠ .halfOpen trials') →
      ∃ call succeeded now,
        e = .settle call succeeded now ∧ w.entered ≤ call ∧ w.pending? call = some true) ∧
    ∀ call succeeded now, call < w.entered →
      (w.meet (.settle call succeeded now)).breaker = w.breaker

section HalfOpen

variable {w : Watch}
variable {trials : Nat}

/-- The outcome of a call that is no pending trial changes nothing while a breaker is half-open. -/
theorem meet_settle_of_halfOpen
    (hstate : w.breaker.state = .halfOpen trials)
    {call : Nat}
    (hcall : w.pending? call ≠ some true)
    (succeeded : Bool)
    (now : Instant) :
    (w.meet (.settle call succeeded now)).breaker = w.breaker := by
  cases hpending : w.pending? call with
  | none => simp [meet, hpending]
  | some probe =>
      have hprobe : probe = false := by
        cases probe with
        | false => rfl
        | true => exact absurd hpending hcall
      simp [meet, hpending, record, recordSuccess, recordFailure, hstate, hprobe]

/-- What decides on a half-open breaker is the outcome of a pending trial. -/
theorem decided_iff
    (hstate : w.breaker.state = .halfOpen trials)
    (e : Event) :
    (∀ trials', (w.meet e).breaker.state ≠ .halfOpen trials') ↔
      ∃ call succeeded now, e = .settle call succeeded now ∧ w.pending? call = some true := by
  constructor
  · intro hdecided
    cases e with
    | elsewhere => exact absurd hstate (hdecided trials)
    | ask now =>
        exfalso
        simp only [meet] at hdecided
        cases w.breaker.checked_check now with
        | tried _ _ hr => exact hdecided _ (by rw [hr])
        | full _ _ hr => exact hdecided trials (by rw [hr, hstate])
        | passed hclosed _ => simp [hstate] at hclosed
        | refused hopened _ _ => simp [hstate] at hopened
        | entered hopened _ _ => simp [hstate] at hopened
    | settle call succeeded now =>
        refine ⟨call, succeeded, now, rfl, ?_⟩
        refine Decidable.byContradiction fun hcall => hdecided trials ?_
        rw [meet_settle_of_halfOpen hstate hcall, hstate]
  · rintro ⟨call, succeeded, now, rfl, hcall⟩ trials'
    simp only [meet, hcall]
    cases succeeded <;> simp [record, recordSuccess, recordFailure, hstate, opened]

end HalfOpen

section OneTrial

variable {w : Watch}

theorem trialsFrom_zero (k : Nat) (calls : List (Option Bool)) :
    trialsFrom 0 calls = (calls.take k).count (some true) + trialsFrom k calls := by
  unfold trialsFrom
  rw [List.drop_zero, ← List.count_append, List.take_append_drop]

/-- The outcome of a trial takes it from the pending ones. -/
theorem trialsFrom_zero_set
    {calls : List (Option Bool)}
    {call : Nat}
    (h : calls[call]? = some (some true)) :
    trialsFrom 0 (calls.set call none) + 1 = trialsFrom 0 calls := by
  obtain ⟨hlt, hget⟩ := List.getElem?_eq_some_iff.1 h
  have hpos : 0 < calls.count (some true) :=
    List.count_pos_iff.2 (hget ▸ List.getElem_mem hlt)
  unfold trialsFrom
  rw [List.drop_zero, List.drop_zero, List.count_set hlt, hget]
  simp
  omega

/-- The pending trials are those that the state counts: there is none unless it is half-open. -/
def AllCounted (w : Watch) : Prop :=
  trialsFrom 0 w.calls =
    match w.breaker.state with
    | .halfOpen trials => trials
    | _ => 0

theorem allCounted_new (settings : BreakerSettings) : (new settings).AllCounted := by
  unfold AllCounted
  rfl

namespace AllCounted

theorem ask
    (h : w.AllCounted)
    (now : Instant) :
    (w.meet (.ask now)).AllCounted := by
  unfold AllCounted at h ⊢
  simp only [meet, trialsFrom_append (Nat.zero_le _)]
  cases w.breaker.checked_check now with
  | passed hstate hr =>
      simp only [hstate] at h
      simp [hr, h, hstate, BreakerCheck.trial?]
  | refused hstate _ hr =>
      simp only [hstate] at h
      simp [hr, h, hstate, BreakerCheck.trial?]
  | entered hstate _ hr =>
      simp only [hstate] at h
      simp [hr, h, BreakerCheck.trial?]
  | tried hstate _ hr =>
      simp only [hstate] at h
      simp [hr, h, BreakerCheck.trial?]
  | full hstate _ hr =>
      simp only [hstate] at h
      simp [hr, h, hstate, BreakerCheck.trial?]

/-- With one trial at most, the one that is settled was the only one. -/
theorem settle
    (h : w.AllCounted)
    (hw : w.Tidy)
    (hone : w.breaker.settings.halfOpenTrials ≤ 1)
    (call : Nat)
    (succeeded : Bool)
    (now : Instant) :
    (w.meet (.settle call succeeded now)).AllCounted := by
  cases hpending : w.pending? call with
  | none =>
      simp only [meet, hpending]
      exact h
  | some probe =>
      have hcall : w.calls[call]? = some (some probe) := Option.join_eq_some_iff.1 hpending
      unfold AllCounted at h ⊢
      simp only [meet, hpending]
      cases probe with
      | false =>
          have hkept : trialsFrom 0 (w.calls.set call none) = trialsFrom 0 w.calls :=
            trialsFrom_set (by simp [hcall])
          rw [hkept]
          cases w.breaker.recorded_record false succeeded now with
          | reset hstate _ hr => simp only [hstate] at h; simp [hr, h]
          | counted hstate _ _ hr => simp only [hstate] at h; simp [hr, h]
          | opened hstate _ _ hr => simp only [hstate] at h; simp [hr, h, Breaker.opened]
          | ignored hstate _ hr => simp only [hstate] at h; simp [hr, h, hstate]
          | late hstate hr => simp only [hstate] at h; simp [hr, h, hstate]
          | recovered _ hprobe _ _ => cases hprobe
          | reopened _ hprobe _ _ => cases hprobe
      | true =>
          have hless := trialsFrom_zero_set hcall
          cases w.breaker.recorded_record true succeeded now with
          | reset hstate _ _ => simp only [hstate] at h; omega
          | counted hstate _ _ _ => simp only [hstate] at h; omega
          | opened hstate _ _ _ => simp only [hstate] at h; omega
          | late hstate _ => simp only [hstate] at h; omega
          | ignored _ hprobe _ => cases hprobe
          | recovered hstate _ _ hr =>
              have htrials := hw.tried _ hstate
              simp only [hstate] at h
              simp only [hr]
              omega
          | reopened hstate _ _ hr =>
              have htrials := hw.tried _ hstate
              simp only [hstate] at h
              simp only [hr, Breaker.opened]
              omega

theorem meet
    (h : w.AllCounted)
    (hw : w.Tidy)
    (hone : w.breaker.settings.halfOpenTrials ≤ 1)
    (e : Event) :
    (w.meet e).AllCounted := by
  cases e with
  | ask now => exact h.ask now
  | elsewhere =>
      unfold AllCounted at h ⊢
      simp only [Watch.meet, trialsFrom_append (Nat.zero_le _)]
      exact h
  | settle call succeeded now => exact h.settle hw hone call succeeded now

theorem after
    (h : w.AllCounted)
    (hw : w.Tidy)
    (hone : w.breaker.settings.halfOpenTrials ≤ 1)
    (events : List Event) :
    (w.after events).AllCounted := by
  induction events generalizing w with
  | nil => exact h
  | cons e es ih => exact ih (h.meet hw hone e) (hw.meet e) (by rw [settings_meet]; exact hone)

end AllCounted

/-- Where all pending trials are counted, they are those of the current period. -/
theorem entered_le_of_pending?
    (h : w.AllCounted)
    (hw : w.Tidy)
    {trials : Nat}
    (hstate : w.breaker.state = .halfOpen trials)
    {call : Nat}
    (hcall : w.pending? call = some true) :
    w.entered ≤ call := by
  refine Nat.le_of_not_lt fun hlt => ?_
  have hget : (w.calls.take w.entered)[call]? = some (some true) := by
    rw [List.getElem?_take_of_lt hlt]
    exact Option.join_eq_some_iff.1 hcall
  have hpos : 0 < (w.calls.take w.entered).count (some true) :=
    List.count_pos_iff.2 (List.mem_of_getElem? hget)
  have hsplit := trialsFrom_zero w.entered w.calls
  have hcounted := (hw.tried _ hstate).2.2
  unfold AllCounted at h
  simp only [hstate] at h
  omega

end OneTrial

section Outliving

variable {w : Watch}

/-- A call that a closed breaker lets pass, and that fails. -/
theorem breaker_of_failed
    {failures : Nat}
    {windowStart : Option Instant}
    (hstate : w.breaker.state = .closed failures windowStart)
    (now : Instant) :
    (w.after [.ask now, .settle w.calls.length false now]).breaker =
      w.breaker.record false false now := by
  have hasked : w.meet (.ask now) =
      { w with calls := w.calls ++ [some false], entered := w.entering now } := by
    simp [meet, check, hstate, BreakerCheck.trial?]
  have hpending : (w.meet (.ask now)).pending? w.calls.length = some false := by
    simp [hasked, pending?]
  show ((w.meet (.ask now)).meet (.settle w.calls.length false now)).breaker = _
  generalize hnext : w.meet (.ask now) = next at hpending hasked
  simp only [meet, hpending]
  rw [hasked]

/-- Failures at the start of the clock are counted one after another. -/
theorem exists_failures
    (settings : BreakerSettings)
    (failures : Nat)
    (h : failures < max 1 settings.failureThreshold) :
    ∃ events windowStart,
      ((new settings).after events).breaker.state = .closed failures windowStart ∧
      ((new settings).after events).breaker.countFailure failures windowStart 0 =
        (failures + 1, 0) := by
  induction failures with
  | zero => exact ⟨[], none, rfl, rfl⟩
  | succ failures ih =>
      obtain ⟨events, windowStart, hstate, hcount⟩ := ih (by omega)
      refine ⟨events ++ [.ask 0, .settle ((new settings).after events).calls.length false 0],
        some 0, ?_, ?_⟩
      · have hfew : ¬ settings.failureThreshold ≤ failures + 1 := by omega
        rw [after_append, breaker_of_failed hstate]
        simp [record, recordFailure, hstate, hcount, hfew]
      · simp [countFailure]

/-- Enough failures open a breaker. -/
theorem exists_opened (settings : BreakerSettings) :
    ∃ events retryAt, ((new settings).after events).breaker.state = .opened retryAt := by
  obtain ⟨events, windowStart, hstate, hcount⟩ :=
    exists_failures settings (max 1 settings.failureThreshold - 1) (by omega)
  have henough : settings.failureThreshold ≤ max 1 settings.failureThreshold - 1 + 1 := by omega
  refine ⟨events ++ [.ask 0, .settle ((new settings).after events).calls.length false 0],
    0 + settings.breakDuration, ?_⟩
  rw [after_append, breaker_of_failed hstate]
  simp only [record, recordFailure, hstate, hcount, settings_after, settings_new, if_pos henough,
    Breaker.opened, Bool.false_eq_true, if_false]

/-- With two trials in a period, one of them may outlive the period. -/
theorem exists_outliving
    {settings : BreakerSettings}
    (htwo : 2 ≤ settings.halfOpenTrials) :
    ∃ events call,
      ((new settings).after events).breaker.state = .halfOpen 1 ∧
      call < ((new settings).after events).entered ∧
      ((new settings).after events).pending? call = some true := by
  obtain ⟨events, t, hopened⟩ := exists_opened settings
  have hsettings := (new settings).settings_after events
  generalize hw : (new settings).after events = w at hopened hsettings
  have hfirst : w.meet (.ask t) =
      ⟨{ w.breaker with state := .halfOpen 1 }, w.calls ++ [some true], w.calls.length⟩ := by
    simp [meet, entering, check, hopened, BreakerState.isOpen, BreakerCheck.trial?]
  have hroom : 1 < w.breaker.settings.halfOpenTrials := by
    rw [hsettings]
    exact htwo
  have hsecond : (w.meet (.ask t)).meet (.ask t) =
      ⟨{ w.breaker with state := .halfOpen 2 }, w.calls ++ [some true, some true],
        w.calls.length⟩ := by
    rw [hfirst]
    simp [meet, entering, check, hroom, BreakerState.isOpen, BreakerCheck.trial?]
  -- the first trial fails and ends the period, the second one is still pending
  have hfailed :
      ((w.meet (.ask t)).meet (.ask t)).meet (.settle w.calls.length false t) =
        ⟨w.breaker.opened t, w.calls ++ [none, some true], w.calls.length⟩ := by
    rw [hsecond]
    simp [meet, pending?, record, recordFailure, Breaker.opened]
  have hagain :
      (((w.meet (.ask t)).meet (.ask t)).meet (.settle w.calls.length false t)).meet
          (.ask (t + w.breaker.settings.breakDuration)) =
        ⟨{ w.breaker with state := .halfOpen 1 }, w.calls ++ [none, some true, some true],
          w.calls.length + 2⟩ := by
    rw [hfailed]
    simp [meet, entering, check, Breaker.opened, BreakerState.isOpen, BreakerCheck.trial?]
  refine ⟨events ++ [.ask t, .ask t, .settle w.calls.length false t,
    .ask (t + w.breaker.settings.breakDuration)], w.calls.length + 1, ?_⟩
  rw [after_append, hw]
  simp only [after, List.foldl_cons, List.foldl_nil, hagain]
  simp [pending?]

end Outliving

/--
In all runs, what decides on a half-open breaker is the outcome of a pending trial. That it is
always a trial of the current half-open period holds just for those settings that let one trial pass
at most: with more of them, one that was let pass before the breaker opened again may decide.
-/
theorem decided_by_trials (settings : BreakerSettings) :
    (∀ (events : List Event) (trials : Nat) (e : Event),
      let w := (new settings).after events
      w.breaker.state = .halfOpen trials →
      ((∀ trials', (w.meet e).breaker.state ≠ .halfOpen trials') ↔
        ∃ call succeeded now, e = .settle call succeeded now ∧ w.pending? call = some true)) ∧
    (OwnTrialsDecide settings ↔ settings.halfOpenTrials ≤ 1) := by
  refine ⟨fun events trials e hstate => decided_iff hstate e, ?_⟩
  constructor
  · intro hown
    refine Nat.le_of_not_lt fun htwo => ?_
    obtain ⟨events, call, hstate, hcall, hpending⟩ := exists_outliving htwo
    have hkept := (hown events 1 hstate).2 call true 0 hcall
    refine (decided_iff hstate (.settle call true 0)).2 ⟨call, true, 0, rfl, hpending⟩ 1 ?_
    rw [hkept, hstate]
  · intro hone events trials w hstate
    have htidy : w.Tidy := (tidy_new settings).after events
    have hcounted : w.AllCounted :=
      (allCounted_new settings).after (tidy_new settings) hone events
    refine ⟨fun e hdecided => ?_, fun call succeeded now hcall => ?_⟩
    · obtain ⟨call, succeeded, now, rfl, hpending⟩ := (decided_iff hstate e).1 hdecided
      exact ⟨call, succeeded, now, rfl, entered_le_of_pending? hcounted htidy hstate hpending,
        hpending⟩
    · refine meet_settle_of_halfOpen hstate (fun hpending => ?_) succeeded now
      exact Nat.not_le_of_lt hcall (entered_le_of_pending? hcounted htidy hstate hpending)

end Watch
end Breaker
end ApiGateway
