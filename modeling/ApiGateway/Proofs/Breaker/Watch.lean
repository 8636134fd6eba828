import ApiGateway.Proofs.Breaker.Transitions

/-!
# A breaker and its calls

A breaker is watched together with the calls that are begun around it. A call that it lets pass is
pending until its outcome is recorded, which happens once; every interleaving of checks and outcomes
is a list of events. The watch also remembers the call with which the breaker became half-open the
last time: the trials from this one on are those of the current half-open period.

Main statements: `Tidy.after`, the invariant of all runs, which counts the failures of a closed
breaker and the pending trials of a half-open one; `trials_of_opened`, which bounds what passes an
open breaker until the outcome of a trial is recorded.
-/

namespace ApiGateway
namespace Breaker

/-- A breaker and the calls that are begun around it. -/
structure Watch where
  breaker : Breaker
  /-- Whether a call is a trial, as long as it is pending at this breaker. -/
  calls : List (Option Bool) := []
  /-- The call with which the breaker became half-open the last time. -/
  entered : Nat := 0

namespace Watch

inductive Event
  | ask (now : Instant)
  /-- A call is begun that does not ask this breaker. -/
  | elsewhere
  | settle (call : Nat) (succeeded : Bool) (now : Instant)

/-- A breaker that was not asked yet. -/
def new (settings : BreakerSettings) : Watch := { breaker := { settings } }

/-- Whether a call is a trial, if it is pending. -/
def pending? (w : Watch) (call : Nat) : Option Bool := w.calls[call]?.join

/-- The call with which the breaker became half-open the last time, when another one asks. -/
def entering (w : Watch) (now : Instant) : Nat :=
  if w.breaker.state.isOpen ∧ (w.breaker.check now).2.trial? = some true then w.calls.length
  else w.entered

/-- The watch after an event. -/
def meet (w : Watch) : Event → Watch
  | .ask now =>
      { breaker := (w.breaker.check now).1
        calls := w.calls ++ [(w.breaker.check now).2.trial?]
        entered := w.entering now }
  | .elsewhere => { w with calls := w.calls ++ [none] }
  | .settle call succeeded now =>
      match w.pending? call with
      | some probe =>
          { w with
            breaker := w.breaker.record probe succeeded now
            calls := w.calls.set call none }
      | none => w

def after (w : Watch) (events : List Event) : Watch :=
  events.foldl meet w

/-- What an event does at the breaker. -/
def notes (w : Watch) : Event → List Note
  | .ask now => [.asked w.calls.length (w.breaker.check now).2 now]
  | .elsewhere => []
  | .settle call succeeded now =>
      match w.pending? call with
      | some probe => [.settled call probe succeeded now]
      | none => []

def history (w : Watch) : List Event → List Note
  | [] => []
  | e :: es => w.notes e ++ history (w.meet e) es

section Places

variable {β : Type}
variable {l : List (Option β)}

/-- A place without a call stays one. -/
theorem set_none_of_join_eq_none
    {k : Nat}
    (h : l[k]?.join = none) :
    l.set k none = l := by
  refine List.ext_getElem? fun j => ?_
  rw [List.getElem?_set]
  split
  · rename_i hkj
    subst hkj
    cases hk : l[k]? with
    | none => simp [List.getElem?_eq_none_iff.1 hk]
    | some o =>
        rw [hk] at h
        have ho : o = none := h
        simp [(List.getElem?_eq_some_iff.1 hk).1, ho]
  · rfl

theorem join_getElem?_append
    (l : List (Option β))
    (o : Option β)
    (k : Nat) :
    (l ++ [o])[k]?.join = if k = l.length then o else l[k]?.join := by
  by_cases hlt : k < l.length
  · rw [List.getElem?_append_left hlt, if_neg (Nat.ne_of_lt hlt)]
  · rw [List.getElem?_append_right (Nat.le_of_not_lt hlt)]
    split
    · rename_i heq
      simp [heq]
    · have hpast : [o].length ≤ k - l.length := by
        rw [List.length_singleton]
        omega
      rw [List.getElem?_eq_none hpast, List.getElem?_eq_none (Nat.le_of_not_lt hlt)]

theorem join_getElem?_set_none
    (l : List (Option β))
    (k j : Nat) :
    (l.set k none)[j]?.join = if k = j then none else l[j]?.join := by
  rw [List.getElem?_set]
  by_cases heq : k = j
  · rw [if_pos heq, if_pos heq]
    split <;> rfl
  · rw [if_neg heq, if_neg heq]

end Places

section Runs

variable (w : Watch)

theorem after_append (es es' : List Event) : w.after (es ++ es') = (w.after es).after es' :=
  List.foldl_append

@[simp] theorem after_singleton (e : Event) : w.after [e] = w.meet e :=
  rfl

@[simp] theorem history_singleton (e : Event) : w.history [e] = w.notes e :=
  List.append_nil _

theorem history_append (es es' : List Event) :
    w.history (es ++ es') = w.history es ++ (w.after es).history es' := by
  induction es generalizing w with
  | nil => rfl
  | cons e es ih =>
      show w.notes e ++ (w.meet e).history (es ++ es') = _
      rw [ih, ← List.append_assoc]
      rfl

theorem breaker_meet (e : Event) : (w.meet e).breaker = (w.notes e).foldl hear w.breaker := by
  cases e with
  | ask now => rfl
  | elsewhere => rfl
  | settle call succeeded now =>
      cases h : w.pending? call <;> simp [meet, notes, hear, h]

/-- The breaker is what the calls did at it. -/
theorem breaker_after (es : List Event) :
    (w.after es).breaker = (w.history es).foldl hear w.breaker := by
  induction es generalizing w with
  | nil => rfl
  | cons e es ih =>
      show ((w.meet e).after es).breaker = (w.notes e ++ (w.meet e).history es).foldl hear w.breaker
      rw [ih, List.foldl_append, breaker_meet]

@[simp] theorem settings_new (settings : BreakerSettings) :
    (new settings).breaker.settings = settings :=
  rfl

@[simp] theorem settings_meet (e : Event) :
    (w.meet e).breaker.settings = w.breaker.settings := by
  cases e with
  | ask now => exact w.breaker.settings_check now
  | elsewhere => rfl
  | settle call succeeded now =>
      cases h : w.pending? call <;> simp [meet, h]

@[simp] theorem settings_after (es : List Event) :
    (w.after es).breaker.settings = w.breaker.settings := by
  induction es generalizing w with
  | nil => rfl
  | cons e es ih => exact (ih (w.meet e)).trans (w.settings_meet e)

end Runs

/-- How many pending calls are trials, from one call on. -/
def trialsFrom (k : Nat) (calls : List (Option Bool)) : Nat :=
  (calls.drop k).count (some true)

section Trials

variable {k : Nat}
variable {calls : List (Option Bool)}

theorem trialsFrom_append
    (h : k ≤ calls.length)
    (o : Option Bool) :
    trialsFrom k (calls ++ [o]) = trialsFrom k calls + if o = some true then 1 else 0 := by
  unfold trialsFrom
  rw [List.drop_append_of_le_length h, List.count_append, List.count_singleton]
  simp

theorem count_set_none
    {call : Nat}
    (h : calls[call]? ≠ some (some true)) :
    (calls.set call none).count (some true) = calls.count (some true) := by
  induction calls generalizing call with
  | nil => rfl
  | cons o calls ih =>
      cases call with
      | zero =>
          have ho : o ≠ some true := fun ho => h (congrArg some ho)
          simp [ho]
      | succ call =>
          have hrest : (calls.set call none).count (some true) = calls.count (some true) :=
            ih (by simpa using h)
          simp [List.count_cons, hrest]

/-- The outcome of a call that is no trial leaves the trials alone. -/
theorem trialsFrom_set
    {call : Nat}
    (h : calls[call]? ≠ some (some true)) :
    trialsFrom k (calls.set call none) = trialsFrom k calls := by
  unfold trialsFrom
  rw [List.drop_set]
  split
  · rfl
  · refine count_set_none ?_
    rw [List.getElem?_drop, show k + (call - k) = call by omega]
    exact h

end Trials

/-- What holds of a breaker and its calls at any time. -/
structure Tidy (w : Watch) : Prop where
  few : ∀ failures windowStart, w.breaker.state = .closed failures windowStart →
    failures < max 1 w.breaker.settings.failureThreshold
  begun : w.entered ≤ w.calls.length
  tried : ∀ trials, w.breaker.state = .halfOpen trials →
    1 ≤ trials ∧ trials ≤ max 1 w.breaker.settings.halfOpenTrials ∧
      trialsFrom w.entered w.calls = trials

section Steps

variable {w : Watch}

theorem entering_of_opened
    {retryAt now : Instant}
    (hstate : w.breaker.state = .opened retryAt)
    (hover : retryAt ≤ now) :
    w.entering now = w.calls.length := by
  simp [entering, check, hstate, hover, BreakerState.isOpen, BreakerCheck.trial?]

theorem entering_of_not_isOpen
    {now : Instant}
    (h : w.breaker.state.isOpen = false) :
    w.entering now = w.entered := by
  simp [entering, h]

theorem entering_of_rejected
    {now : Instant}
    (h : (w.breaker.check now).2 = .rejected) :
    w.entering now = w.entered := by
  simp [entering, h, BreakerCheck.trial?]

/-- A breaker that is closed without failures has few of them. -/
theorem few_of_reset
    {b : Breaker}
    (hstate : b.state = .closed 0 none) :
    ∀ failures windowStart, b.state = .closed failures windowStart →
      failures < max 1 b.settings.failureThreshold := by
  intro failures windowStart h
  rw [hstate] at h
  cases h
  exact Nat.lt_of_lt_of_le Nat.zero_lt_one (Nat.le_max_left 1 _)

theorem tidy_new (settings : BreakerSettings) : (new settings).Tidy where
  few := few_of_reset rfl
  begun := Nat.le_refl 0
  tried := by
    intro trials h
    cases h

namespace Tidy

theorem ask
    (hw : w.Tidy)
    (now : Instant) :
    (w.meet (.ask now)).Tidy := by
  have hbegun := hw.begun
  show Watch.Tidy ⟨_, _, _⟩
  cases w.breaker.checked_check now with
  | passed hstate hr =>
      rw [hr, entering_of_not_isOpen (by rw [hstate]; rfl)]
      refine ⟨hw.few, by simp; omega, ?_⟩
      intro trials h
      rw [hstate] at h
      cases h
  | refused hstate hearly hr =>
      rw [entering_of_rejected (by rw [hr]), hr]
      refine ⟨hw.few, by simp; omega, ?_⟩
      intro trials h
      rw [hstate] at h
      cases h
  | entered hstate hover hr =>
      rw [entering_of_opened hstate hover, hr]
      refine ⟨?_, by simp, ?_⟩
      · intro failures windowStart h
        cases h
      · intro trials h
        cases h
        refine ⟨Nat.le_refl 1, Nat.le_max_left 1 _, ?_⟩
        simp [trialsFrom, BreakerCheck.trial?]
  | tried hstate hroom hr =>
      rw [hr, entering_of_not_isOpen (by rw [hstate]; rfl)]
      obtain ⟨_, _, hcount⟩ := hw.tried _ hstate
      refine ⟨?_, by simp; omega, ?_⟩
      · intro failures windowStart h
        cases h
      · intro trials h
        cases h
        refine ⟨by omega, by dsimp only; omega, ?_⟩
        rw [trialsFrom_append hbegun, hcount]
        rfl
  | full hstate htaken hr =>
      rw [entering_of_rejected (by rw [hr]), hr]
      refine ⟨hw.few, by simp; omega, ?_⟩
      intro trials h
      rw [trialsFrom_append hbegun]
      exact hw.tried trials h

theorem elsewhere (hw : w.Tidy) : (w.meet .elsewhere).Tidy := by
  have hbegun := hw.begun
  refine ⟨hw.few, by simp [meet]; omega, ?_⟩
  intro trials h
  show _ ∧ _ ∧ trialsFrom w.entered (w.calls ++ [none]) = trials
  rw [trialsFrom_append hbegun]
  exact hw.tried trials h

theorem settle
    (hw : w.Tidy)
    (call : Nat)
    (succeeded : Bool)
    (now : Instant) :
    (w.meet (.settle call succeeded now)).Tidy := by
  cases hpending : w.pending? call with
  | none =>
      simp only [meet, hpending]
      exact hw
  | some probe =>
      simp only [meet, hpending]
      have hbegun : w.entered ≤ (w.calls.set call none).length := by
        rw [List.length_set]
        exact hw.begun
      cases w.breaker.recorded_record probe succeeded now with
      | reset _ _ hr =>
          rw [hr]
          exact ⟨few_of_reset rfl, hbegun, by simp⟩
      | counted _ _ hfew hr =>
          rw [hr]
          refine ⟨?_, hbegun, by simp⟩
          intro failures windowStart h
          cases h
          exact Nat.lt_of_lt_of_le hfew (Nat.le_max_right 1 _)
      | opened _ _ _ hr =>
          rw [hr]
          exact ⟨by simp [Breaker.opened], hbegun, by simp [Breaker.opened]⟩
      | recovered _ _ _ hr =>
          rw [hr]
          exact ⟨few_of_reset rfl, hbegun, by simp⟩
      | reopened _ _ _ hr =>
          rw [hr]
          exact ⟨by simp [Breaker.opened], hbegun, by simp [Breaker.opened]⟩
      | ignored hstate htrial hr =>
          rw [hr]
          refine ⟨hw.few, hbegun, ?_⟩
          -- the outcome of a call that is no trial: all trials are still pending
          have hcall : w.calls[call]? ≠ some (some true) := by
            intro h
            rw [pending?, h, htrial] at hpending
            cases hpending
          intro trials h
          show _ ∧ _ ∧ trialsFrom w.entered (w.calls.set call none) = trials
          rw [trialsFrom_set hcall]
          exact hw.tried trials h
      | late hstate hr =>
          rw [hr]
          refine ⟨hw.few, hbegun, ?_⟩
          intro trials h
          rw [hstate] at h
          cases h

theorem meet
    (hw : w.Tidy)
    (e : Event) :
    (w.meet e).Tidy := by
  cases e with
  | ask now => exact hw.ask now
  | elsewhere => exact hw.elsewhere
  | settle call succeeded now => exact hw.settle call succeeded now

theorem after
    (hw : w.Tidy)
    (events : List Event) :
    (w.after events).Tidy := by
  induction events generalizing w with
  | nil => exact hw
  | cons e es ih => exact ih (hw.meet e)

end Tidy

/-- Only a failure opens a breaker. -/
theorem opened_of_meet
    {e : Event}
    {retryAt : Instant}
    (hbefore : w.breaker.state.isOpen = false)
    (hafter : (w.meet e).breaker.state = .opened retryAt) :
    ∃ call now,
      e = .settle call false now ∧ retryAt = now + w.breaker.settings.breakDuration := by
  have hsame : (w.meet e).breaker ≠ w.breaker := by
    intro h
    rw [h] at hafter
    rw [hafter] at hbefore
    cases hbefore
  cases e with
  | elsewhere => exact absurd rfl hsame
  | ask now =>
      simp only [meet] at hafter hsame
      cases w.breaker.checked_check now with
      | passed _ hr => exact absurd (congrArg Prod.fst hr) hsame
      | refused _ _ hr => exact absurd (congrArg Prod.fst hr) hsame
      | entered _ _ hr => simp [hr] at hafter
      | tried _ _ hr => simp [hr] at hafter
      | full _ _ hr => exact absurd (congrArg Prod.fst hr) hsame
  | settle call succeeded now =>
      cases hpending : w.pending? call with
      | none => exact absurd (by simp [meet, hpending]) hsame
      | some probe =>
          simp only [meet, hpending] at hafter hsame
          cases w.breaker.recorded_record probe succeeded now with
          | reset _ _ hr => simp [hr] at hafter
          | counted _ _ _ hr => simp [hr] at hafter
          | recovered _ _ _ hr => simp [hr] at hafter
          | ignored _ _ hr => exact absurd hr hsame
          | late _ hr => exact absurd hr hsame
          | opened _ houtcome _ hr | reopened _ _ houtcome hr =>
              rw [hr] at hafter
              cases hafter
              exact ⟨call, now, by rw [houtcome], rfl⟩

theorem admissions_append (h h' : List Note) :
    admissions (h ++ h') = admissions h ++ admissions h' :=
  List.filterMap_append

/-- An open breaker stays as it is, or becomes half-open with its first trial. -/
theorem meet_of_opened
    {retryAt : Instant}
    (hstate : w.breaker.state = .opened retryAt)
    (e : Event) :
    ((w.meet e).breaker = w.breaker ∧ admissions (w.notes e) = []) ∨
    ∃ now,
      e = .ask now ∧ retryAt ≤ now ∧
      (w.meet e).breaker = { w.breaker with state := .halfOpen 1 } ∧
      admissions (w.notes e) = [true] := by
  cases e with
  | elsewhere => exact Or.inl ⟨rfl, rfl⟩
  | ask now =>
      simp only [meet, notes]
      cases w.breaker.checked_check now with
      | refused _ _ hr =>
          rw [hr]
          exact Or.inl ⟨rfl, rfl⟩
      | entered hopened hover hr =>
          rw [hstate] at hopened
          cases hopened
          rw [hr]
          exact Or.inr ⟨now, rfl, hover, rfl, rfl⟩
      | passed hclosed _ => simp [hstate] at hclosed
      | tried hhalf _ _ => simp [hstate] at hhalf
      | full hhalf _ _ => simp [hstate] at hhalf
  | settle call succeeded now =>
      left
      cases hpending : w.pending? call with
      | none =>
          simp [meet, notes, hpending, admissions]
      | some probe =>
          simp only [meet, notes, hpending]
          refine ⟨?_, rfl⟩
          simp [record, recordSuccess, recordFailure, hstate]

/-- An open breaker stays as it is as long as it lets no call pass. -/
theorem after_of_opened
    {retryAt : Instant}
    (hstate : w.breaker.state = .opened retryAt)
    {events : List Event}
    (hnone : admissions (w.history events) = []) :
    (w.after events).breaker = w.breaker := by
  induction events generalizing w with
  | nil => rfl
  | cons e es ih =>
      rw [history, admissions_append, List.append_eq_nil_iff] at hnone
      rcases w.meet_of_opened hstate e with ⟨hsame, _⟩ | ⟨_, _, _, _, hfirst⟩
      · have hnext : (w.meet e).breaker.state = .opened retryAt := by rw [hsame, hstate]
        exact (ih hnext hnone.2).trans hsame
      · rw [hfirst] at hnone
        cases hnone.1

/-- An open breaker lets no call pass before the break is over. -/
theorem admissions_of_opened
    {retryAt : Instant}
    (hstate : w.breaker.state = .opened retryAt)
    {events : List Event}
    (hearly : ∀ now, .ask now ∈ events → now < retryAt) :
    admissions (w.history events) = [] := by
  induction events generalizing w with
  | nil => rfl
  | cons e es ih =>
      rw [history, admissions_append]
      rcases w.meet_of_opened hstate e with ⟨hsame, hfirst⟩ | ⟨now, rfl, hover, _, _⟩
      · have hnext : (w.meet e).breaker.state = .opened retryAt := by rw [hsame, hstate]
        rw [hfirst, ih hnext fun now hnow => hearly now (List.mem_cons_of_mem _ hnow)]
        rfl
      · exact absurd hover (Nat.not_le_of_lt (hearly now List.mem_cons_self))

/-- A half-open breaker counts its trials until the outcome of a trial is recorded. -/
theorem meet_of_halfOpen
    {trials : Nat}
    (hstate : w.breaker.state = .halfOpen trials)
    {e : Event}
    (hnone : ∀ n, n ∈ w.notes e → n.endsTrial = false) :
    (w.meet e).breaker.state = .halfOpen (trials + (admissions (w.notes e)).length) ∧
      trials + (admissions (w.notes e)).length ≤ max trials w.breaker.settings.halfOpenTrials ∧
      ∀ probe, probe ∈ admissions (w.notes e) → probe = true := by
  cases e with
  | elsewhere => exact ⟨hstate, Nat.le_max_left _ _, by simp [notes, admissions]⟩
  | ask now =>
      simp only [meet, notes]
      cases w.breaker.checked_check now with
      | tried hhalf hroom hr =>
          rw [hstate] at hhalf
          cases hhalf
          rw [hr]
          refine ⟨rfl, ?_, by simp [admissions, Note.admission?, BreakerCheck.trial?]⟩
          exact Nat.le_trans hroom (Nat.le_max_right _ _)
      | full _ _ hr =>
          rw [hr]
          refine ⟨hstate, Nat.le_max_left _ _, ?_⟩
          simp [admissions, Note.admission?, BreakerCheck.trial?]
      | passed hclosed _ => simp [hstate] at hclosed
      | refused hopened _ _ => simp [hstate] at hopened
      | entered hopened _ _ => simp [hstate] at hopened
  | settle call succeeded now =>
      cases hpending : w.pending? call with
      | none =>
          simp only [meet, notes, hpending]
          exact ⟨hstate, Nat.le_max_left _ _, by simp [admissions]⟩
      | some probe =>
          have hprobe : probe = false := by
            simpa [notes, hpending, Note.endsTrial] using hnone
          simp only [meet, notes, hpending]
          refine ⟨?_, Nat.le_max_left _ _, by simp [admissions, Note.admission?]⟩
          simp [record, recordSuccess, recordFailure, hstate, hprobe, admissions, Note.admission?]

/-- What a half-open breaker lets pass until the outcome of a trial is recorded. -/
theorem trials_of_halfOpen
    {trials : Nat}
    (hstate : w.breaker.state = .halfOpen trials)
    {events : List Event}
    (hnone : ∀ n, n ∈ w.history events → n.endsTrial = false) :
    trials + (admissions (w.history events)).length
        ≤ max trials w.breaker.settings.halfOpenTrials ∧
      ∀ probe, probe ∈ admissions (w.history events) → probe = true := by
  induction events generalizing w trials with
  | nil => exact ⟨Nat.le_max_left _ _, by simp [history, admissions]⟩
  | cons e es ih =>
      simp only [history, List.mem_append] at hnone
      obtain ⟨hnext, hle, hfirst⟩ := w.meet_of_halfOpen hstate fun n hn => hnone n (Or.inl hn)
      obtain ⟨hrest, hall⟩ := ih hnext fun n hn => hnone n (Or.inr hn)
      rw [settings_meet] at hrest
      rw [history, admissions_append, List.length_append]
      refine ⟨by omega, ?_⟩
      intro probe hprobe
      rcases List.mem_append.1 hprobe with h | h
      · exact hfirst probe h
      · exact hall probe h

/-- What an open breaker lets pass until the outcome of a trial is recorded. -/
theorem trials_of_opened
    {retryAt : Instant}
    (hstate : w.breaker.state = .opened retryAt)
    {events : List Event}
    (hnone : ∀ n, n ∈ w.history events → n.endsTrial = false) :
    (admissions (w.history events)).length ≤ max 1 w.breaker.settings.halfOpenTrials ∧
      ∀ probe, probe ∈ admissions (w.history events) → probe = true := by
  induction events generalizing w with
  | nil => exact ⟨Nat.zero_le _, by simp [history, admissions]⟩
  | cons e es ih =>
      simp only [history, List.mem_append] at hnone
      rw [history, admissions_append]
      rcases w.meet_of_opened hstate e with ⟨hsame, hfirst⟩ | ⟨_, _, _, hhalf, hfirst⟩ <;>
        rw [hfirst]
      · have hnext : (w.meet e).breaker.state = .opened retryAt := by rw [hsame, hstate]
        have htrials := ih hnext fun n hn => hnone n (Or.inr hn)
        rw [settings_meet] at htrials
        exact htrials
      · have hnext : (w.meet e).breaker.state = .halfOpen 1 := by rw [hhalf]
        obtain ⟨hrest, hall⟩ := trials_of_halfOpen hnext fun n hn => hnone n (Or.inr hn)
        rw [settings_meet] at hrest
        refine ⟨?_, ?_⟩
        · rw [List.length_append]
          exact hrest
        · intro probe hprobe
          rcases List.mem_cons.1 hprobe with h | h
          · exact h
          · exact hall probe h

end Steps

end Watch
end Breaker
end ApiGateway
