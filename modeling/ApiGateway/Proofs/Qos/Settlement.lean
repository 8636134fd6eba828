import ApiGateway.Proofs.Breaker.Trials
import ApiGateway.Proofs.Qos.Watches

/-!
# How guarded calls settle

A call that a breaker lets pass tells this breaker its outcome once, however it ends. So the trials
that a half-open breaker has counted are all on their way, and the breaker cannot be stuck: when it
refuses calls, the end of some trial is still to come, and decides it.

Main statement: `settled_calls`. What the calls have done so far is carried along the run by `Told`,
with the life of each call as an inductive type.
-/

namespace ApiGateway

open Breaker (Note Watch)

namespace Qos
namespace Switchboard

variable {α : Type}

/-- What a call has done at the breakers, and the guard under which it waits. -/
inductive Life (call : Nat) : List (Nat × Note) → Option Guard → Prop
  | silent : Life call [] none
  | refused (i : Nat) (now : Instant) : Life call [(i, .asked call .rejected now)] none
  | waiting (g : Guard) (answer : BreakerCheck) (now : Instant)
      (passed : answer.trial? = some g.probe) :
      Life call [(g.breaker, .asked call answer now)] (some g)
  | settled (i : Nat) (probe : Bool) (answer : BreakerCheck) (now : Instant)
      (succeeded : Bool) (ended : Instant)
      (passed : answer.trial? = some probe) :
      Life call [(i, .asked call answer now), (i, .settled call probe succeeded ended)] none

/-- What was done at the breakers from the beginning. -/
def chronicle (events : List (Event α)) : List (Nat × Note) := ({} : Switchboard α).history events

/-- A breaker is made by what calls did at it, and by nothing else. -/
def Chronicled (events : List (Event α)) : Prop :=
  ∀ i b, (run events).breakers.breakers[i]? = some b →
    b = (ledger i (chronicle events)).foldl Breaker.hear { settings := b.settings }

/-- A call that passes records one outcome, when it ends, and at the breaker that let it pass. -/
def SettledOnce (events : List (Event α)) : Prop :=
  ∀ call, Life call (dealings call (chronicle events)) ((run events).guard? call)

/-- The trials that a half-open breaker has counted are those of its period that wait. -/
def TrialsWait (events : List (Event α)) : Prop :=
  ∀ i b trials, (run events).breakers.breakers[i]? = some b → b.state = .halfOpen trials →
    1 ≤ trials ∧ trials ≤ b.settings.halfOpenTrials ∧
    Watch.trialsFrom ((run events).entered i) ((run events).guards.map (probeAt i)) = trials

/--
A trial of the period of a half-open breaker waits. It ends at its deadline at the latest, and
whenever and however it ends, the breaker is not half-open any more.
-/
def NeverStuck (events : List (Event α)) : Prop :=
  ∀ i b trials, (run events).breakers.breakers[i]? = some b → b.state = .halfOpen trials →
    ∃ call g,
      (run events).entered i ≤ call ∧ (run events).guard? call = some g ∧
      g.breaker = i ∧ g.probe = true ∧
      (∀ t, g.deadline ≤ t → (run events).ending? (.expire call t) = some (call, false, t)) ∧
      ∀ e succeeded t, (run events).ending? e = some (call, succeeded, t) →
        ∀ b', ((run events).meet e).breakers.breakers[i]? = some b' →
          ∀ trials', b'.state ≠ .halfOpen trials'

section Lives

variable {w w' : Switchboard α}
variable {h : List (Nat × Note)}

/-- A call that waits may end. -/
theorem Life.settle
    {call : Nat}
    {g : Guard}
    (hlife : Life call h (some g))
    (succeeded : Bool)
    (now : Instant) :
    Life call (h ++ [(g.breaker, .settled call g.probe succeeded now)]) none := by
  cases hlife with
  | waiting g answer asked hpassed =>
      exact .settled g.breaker g.probe answer asked succeeded now hpassed

/-- What was done so far was done by calls that were begun, each of them living its life. -/
structure Told (w : Switchboard α) (h : List (Nat × Note)) : Prop where
  begun : ∀ n, n ∈ h → n.2.call < w.calls.length
  lives : ∀ call, Life call (dealings call h) (w.guard? call)

theorem guard?_append
    {o : Option Guard}
    (hguards : w'.guards = w.guards ++ [o])
    (call : Nat) :
    w'.guard? call = if call = w.calls.length then o else w.guard? call := by
  unfold guard?
  rw [hguards, Watch.join_getElem?_append, length_guards]

theorem guard?_set
    {call : Nat}
    (hguards : w'.guards = w.guards.set call none)
    (other : Nat) :
    w'.guard? other = if call = other then none else w.guard? other := by
  unfold guard?
  rw [hguards, Watch.join_getElem?_set_none]

theorem dealings_append (call : Nat) (h h' : List (Nat × Note)) :
    dealings call (h ++ h') = dealings call h ++ dealings call h' :=
  List.filter_append ..

theorem dealings_eq_self
    {call : Nat}
    (hall : ∀ n, n ∈ h → n.2.call = call) :
    dealings call h = h :=
  List.filter_eq_self.2 fun n hn => decide_eq_true (hall n hn)

theorem dealings_eq_nil
    {call : Nat}
    (hnone : ∀ n, n ∈ h → n.2.call ≠ call) :
    dealings call h = [] :=
  List.filter_eq_nil_iff.2 fun n hn => by simpa using hnone n hn

theorem told_new : Told ({} : Switchboard α) [] where
  begun := by simp
  lives := fun _ => .silent

/-- A new call may be refused or wait. -/
theorem Told.begin
    (hw : w.Told h)
    {i : Nat}
    {answer : BreakerCheck}
    {now deadline : Instant}
    (hguards : w'.guards =
      w.guards ++ [answer.trial?.map fun probe => ⟨i, probe, deadline⟩]) :
    w'.Told (h ++ [(i, .asked w.calls.length answer now)]) := by
  have hlength : w'.calls.length = w.calls.length + 1 := by
    rw [← length_guards, hguards]
    simp
  constructor
  · intro n hn
    rw [hlength]
    rcases List.mem_append.1 hn with hn | hn
    · exact Nat.lt_succ_of_lt (hw.begun n hn)
    · rw [List.mem_singleton.1 hn]
      exact Nat.lt_succ_self _
  · intro call
    rw [guard?_append hguards, dealings_append]
    by_cases heq : call = w.calls.length
    · subst heq
      have hnew : dealings w.calls.length h = [] :=
        dealings_eq_nil fun n hn => Nat.ne_of_lt (hw.begun n hn)
      rw [hnew, dealings_eq_self (by simp [Note.call]), if_pos rfl, List.nil_append]
      cases answer with
      | allowed => exact .waiting ⟨i, false, deadline⟩ .allowed now rfl
      | probe => exact .waiting ⟨i, true, deadline⟩ .probe now rfl
      | rejected => exact .refused i now
    · have hother : dealings call [(i, .asked w.calls.length answer now)] = [] :=
        dealings_eq_nil (by simpa [Note.call] using Ne.symm heq)
      rw [hother, if_neg heq, List.append_nil]
      exact hw.lives call

/-- The breaker of a call that ends is told. -/
theorem Told.settle
    (hw : w.Told h)
    {call : Nat}
    (hguards : w'.guards = w.guards.set call none)
    (succeeded : Bool)
    (now : Instant) :
    w'.Told (h ++ (w.guard? call).toList.map fun g =>
      (g.breaker, .settled call g.probe succeeded now)) := by
  have hlength : w'.calls.length = w.calls.length := by
    rw [← length_guards, hguards, List.length_set, length_guards]
  constructor
  · intro n hn
    rw [hlength]
    rcases List.mem_append.1 hn with hn | hn
    · exact hw.begun n hn
    · obtain ⟨g, hg, rfl⟩ := List.mem_map.1 hn
      have hguard := Option.join_eq_some_iff.1 (Option.mem_toList.1 hg)
      rw [← length_guards]
      exact (List.getElem?_eq_some_iff.1 hguard).1
  · intro other
    have hlife := hw.lives other
    rw [guard?_set hguards, dealings_append]
    by_cases heq : call = other
    · subst heq
      rw [if_pos rfl]
      cases hguard : w.guard? call with
      | none =>
          rw [hguard] at hlife
          simpa [dealings] using hlife
      -- only a call that waits has a guard to settle, and it waits no longer
      | some g =>
          rw [hguard] at hlife
          have hown : dealings call [(g.breaker, .settled call g.probe succeeded now)] =
              [(g.breaker, .settled call g.probe succeeded now)] :=
            dealings_eq_self (by simp [Note.call])
          rw [Option.toList_some, List.map_singleton, hown]
          exact hlife.settle succeeded now
    · have hother : dealings other ((w.guard? call).toList.map fun g =>
          (g.breaker, .settled call g.probe succeeded now)) = [] := by
        refine dealings_eq_nil fun n hn => ?_
        obtain ⟨g, _, rfl⟩ := List.mem_map.1 hn
        exact heq
      rw [if_neg heq, hother, List.append_nil]
      exact hlife

theorem Told.of_guard?
    (hw : w.Told h)
    (hlength : w.calls.length ≤ w'.calls.length)
    (hguard : ∀ call, w'.guard? call = w.guard? call) :
    w'.Told h := by
  constructor
  · intro n hn
    exact Nat.lt_of_lt_of_le (hw.begun n hn) hlength
  · intro call
    rw [hguard]
    exact hw.lives call

theorem Told.meet
    (hw : w.Told h)
    (hsound : w.breakers.Sound)
    (e : Event α) :
    (w.meet e).Told (h ++ w.notes e) := by
  cases met hsound e with
  | begun p scope now i b _ hnext _ hnotes _ =>
      rw [hnotes]
      exact hw.begin hnext.guards
  | unguarded scope now hevent =>
      subst hevent
      rw [show w.notes (.start none scope now) = [] from rfl, List.append_nil]
      rw [meet_unguarded]
      refine hw.of_guard? (by simp) fun call => ?_
      rw [guard?_append (w := w) (o := none) (by simp [guards, Call.guard?])]
      split
      · rename_i hnew
        simp [guard?, hnew]
      · rfl
  | ended call succeeded now _ hnext _ hnotes _ =>
      rw [hnotes]
      exact hw.settle hnext.guards succeeded now
  | cleared hevent =>
      subst hevent
      rw [show w.notes .clear = [] from rfl, List.append_nil]
      exact hw.of_guard? (Nat.le_refl _) fun _ => rfl
  | idle hnext _ hnotes _ =>
      rw [hnext, hnotes, List.append_nil]
      exact hw

theorem Told.after
    (hw : w.Told h)
    (hsound : w.Sound)
    (events : List (Event α)) :
    (w.after events).Told (h ++ w.history events) := by
  induction events generalizing w h with
  | nil =>
      rw [show w.history [] = [] from rfl, List.append_nil]
      exact hw
  | cons e es ih =>
      have hnext := ih (hw.meet hsound.scopes e) (hsound.meet e)
      rw [List.append_assoc] at hnext
      exact hnext

/-- The trials of a period that wait include one, if there are any. -/
theorem exists_trial
    {i : Nat}
    (hpos : 1 ≤ Watch.trialsFrom (w.entered i) (w.guards.map (probeAt i))) :
    ∃ call g,
      w.entered i ≤ call ∧ w.guard? call = some g ∧ g.breaker = i ∧ g.probe = true := by
  have hmem := List.count_pos_iff.1 hpos
  obtain ⟨k, hk⟩ := List.getElem?_of_mem hmem
  rw [List.getElem?_drop, List.getElem?_map, Option.map_eq_some_iff] at hk
  obtain ⟨guard, hguard, hprobe⟩ := hk
  obtain ⟨g, rfl, hi, htrial⟩ := probeAt_eq_some_iff.1 hprobe
  refine ⟨w.entered i + k, g, Nat.le_add_right _ _, ?_, hi, htrial⟩
  unfold guard?
  rw [hguard]
  rfl

/-- A call ends at its deadline at the latest. -/
theorem ending?_expire
    {call : Nat}
    {g : Guard}
    (hguard : w.guard? call = some g)
    {t : Instant}
    (ht : g.deadline ≤ t) :
    w.ending? (.expire call t) = some (call, false, t) := by
  rw [guard?_eq, Option.bind_eq_some_iff] at hguard
  obtain ⟨c, hc, hg⟩ := hguard
  cases c with
  | ended result => cases hg
  | waiting guard =>
      cases hg
      simp [ending?, hc, Desk.isDue, Call.conduct, Call.deadline?, ht]

/-- The end of a trial decides a half-open breaker. -/
theorem ne_halfOpen_of_ending?
    (hw : w.Sound)
    {i : Nat}
    {b : Breaker}
    {trials : Nat}
    (hb : w.breakers.breakers[i]? = some b)
    (hstate : b.state = .halfOpen trials)
    {call : Nat}
    {g : Guard}
    (hguard : w.guard? call = some g)
    (hi : g.breaker = i)
    (htrial : g.probe = true)
    {e : Event α}
    {succeeded : Bool}
    {t : Instant}
    (hending : w.ending? e = some (call, succeeded, t))
    {b' : Breaker}
    (hb' : (w.meet e).breakers.breakers[i]? = some b')
    (trials' : Nat) :
    b'.state ≠ .halfOpen trials' := by
  have hset := setTo_of_getElem? hb'
  have hwatch := breaker_watch hb' b'.settings
  rw [(watch_meet hw hset).1, acts_of_ending? hending, Watch.after_singleton] at hwatch
  have hhalf : (w.watch i b'.settings).breaker.state = .halfOpen trials := by
    rw [breaker_watch hb, hstate]
  have hpending : (w.watch i b'.settings).pending? call = some true := by
    rw [pending?_watch, hguard]
    exact probeAt_eq_some_iff.2 ⟨g, rfl, hi, htrial⟩
  have hdecided :=
    (Watch.decided_iff hhalf (.settle call succeeded t)).2 ⟨call, succeeded, t, rfl, hpending⟩
  rw [hwatch] at hdecided
  exact hdecided trials'

theorem chronicled (events : List (Event α)) : Chronicled events := by
  intro i b hb
  have hset : (run events).SetTo i b.settings := setTo_of_getElem? hb
  obtain ⟨hafter, hhistory⟩ := watch_after sound_new hset
  calc b = ((run events).watch i b.settings).breaker := (breaker_watch hb b.settings).symm
    _ = ((Watch.new b.settings).after (({} : Switchboard α).actsAlong i events)).breaker :=
        congrArg Watch.breaker hafter
    _ = (ledger i (chronicle events)).foldl Breaker.hear { settings := b.settings } := by
        rw [Watch.breaker_after, chronicle, hhistory]
        rfl

theorem settledOnce (events : List (Event α)) : SettledOnce events :=
  (told_new.after sound_new events).lives

theorem trialsWait
    {events : List (Event α)}
    (hevents : ∀ e, e ∈ events → e.Under fun settings => 1 ≤ settings.halfOpenTrials) :
    TrialsWait events := by
  intro i b trials hb hstate
  have hmany : 1 ≤ b.settings.halfOpenTrials := settings_after sound_new hevents (by simp) i b hb
  have hwatch := breaker_watch hb b.settings
  have htidy := tidy_watch (setTo_of_getElem? hb)
  have htried := htidy.tried trials (by rw [hwatch, hstate])
  rw [hwatch, Nat.max_eq_right hmany] at htried
  exact htried

theorem neverStuck
    {events : List (Event α)}
    (hevents : ∀ e, e ∈ events → e.Under fun settings => 1 ≤ settings.halfOpenTrials) :
    NeverStuck events := by
  intro i b trials hb hstate
  obtain ⟨hpos, _, hcount⟩ := trialsWait hevents i b trials hb hstate
  obtain ⟨call, g, hentered, hguard, hi, htrial⟩ := exists_trial (by rw [hcount]; exact hpos)
  refine ⟨call, g, hentered, hguard, hi, htrial, fun t ht => ending?_expire hguard ht, ?_⟩
  intro e succeeded t hending b' hb' trials'
  exact ne_halfOpen_of_ending? (sound_run events) hb hstate hguard hi htrial hending hb' trials'

/--
However guarded calls are begun and ended, each one that passes records its outcome once, at the
breaker that let it pass. The trials of a half-open breaker are therefore all on their way, are as
many as it counts and as it may have, and the end of any of them decides it: no half-open breaker is
stuck.
-/
theorem settled_calls
    (events : List (Event α))
    (hevents : ∀ e, e ∈ events → e.Under fun settings => 1 ≤ settings.halfOpenTrials) :
    Chronicled events ∧ SettledOnce events ∧ TrialsWait events ∧ NeverStuck events :=
  ⟨chronicled events, settledOnce events, trialsWait hevents, neverStuck hevents⟩

/-- The calls under policies of a configuration are settled, whatever is configured. -/
theorem settles_of_configured
    (events : List (Event α))
    (hconfigured : ∀ e, e ∈ events → e.Configured) :
    Chronicled events ∧ SettledOnce events ∧ TrialsWait events ∧ NeverStuck events := by
  have hevents : ∀ e, e ∈ events → e.Under fun settings => 1 ≤ settings.halfOpenTrials :=
    fun e he => (hconfigured e he).under fun _ h => h.2
  exact ⟨chronicled events, settledOnce events, trialsWait hevents, neverStuck hevents⟩

end Lives

section Abandoned

/-- The policy of a route whose breaker opens with the first failure and has one trial. -/
def strict : Policy := .ofConfig { exceptionsAllowed := 1, timeoutMs := 2000 }

/-- A call of a scope under this policy. -/
def strictAt (seconds : Nat) : Event Unit :=
  .start (some strict) "scope" (Duration.ofSecs seconds)

/--
The first call is given up, which opens the breaker for five seconds; the next one is a trial.
-/
def abandoned : List (Event Unit) :=
  [strictAt 0, .abandon 0 (Duration.ofSecs 1), strictAt 6, strictAt 7]

/-- The call that was given up is settled; the last call is refused, but the trial will end. -/
theorem settled_calls_abandoned :
    Life 0 (dealings 0 (chronicle abandoned)) none ∧
    ∃ call g,
      (run abandoned).guard? call = some g ∧ g.breaker = 0 ∧ g.probe = true ∧
      (run abandoned).ending? (.expire call g.deadline) = some (call, false, g.deadline) := by
  have hevents : ∀ e, e ∈ abandoned → e.Under fun settings => 1 ≤ settings.halfOpenTrials := by
    simp [abandoned, strictAt, Event.Under, strict, Policy.ofConfig]
  have hhalf : (run abandoned).breakers.breakers[0]? =
      some { settings := strict.breaker, state := .halfOpen 1 } := by decide
  obtain ⟨_, honce, _, hnever⟩ := settled_calls abandoned hevents
  refine ⟨honce 0, ?_⟩
  obtain ⟨call, g, _, hguard, hi, htrial, hends, _⟩ := hnever 0 _ 1 hhalf rfl
  exact ⟨call, g, hguard, hi, htrial, hends g.deadline (Nat.le_refl _)⟩

end Abandoned

end Switchboard
end Qos
end ApiGateway
