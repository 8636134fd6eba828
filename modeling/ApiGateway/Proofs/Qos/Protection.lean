import ApiGateway.Proofs.Qos.Watches

/-!
# What the breaker of a scope does for its backend

Calls of one scope, begun and ended in any order, are refused while its breaker is open, are limited
to a few trials after the break, and all pass while the breaker is closed. Main statement:
`protected_scope`.
-/

namespace ApiGateway

open Breaker (Watch)

namespace Qos

namespace Switchboard

variable {α : Type}

/--
When the breaker of a scope opens, it stays as it is and refuses the calls of the scope until the
break is over, which is counted from the instant of the failure that opened it.
-/
def RefusesWhileOpen (scope : String) (events : List (Event α)) : Prop :=
  ∀ before e between (opened : Breaker) t now,
    events = before ++ e :: between →
    e.now? = some t →
    (∀ b, (run before).breakers.find? scope = some b → b.state.isOpen = false) →
    (run (before ++ [e])).breakers.find? scope = some opened →
    opened.state.isOpen = true →
    (∀ p t', .start (some p) scope t' ∈ between → t' ≤ now) →
    now < t + opened.settings.breakDuration →
    (run events).breakers.find? scope = some opened ∧
    ∀ p, (run events).meet (.start (some p) scope now) =
      { run events with
        calls := (run events).calls ++ [some (.ended (.error (.circuitOpen scope)))] }

/--
What the breaker of a scope lets pass after it was open are trials, and no more of them than it has
until the outcome of a trial is recorded.
-/
def LimitsTrials (scope : String) (events : List (Event α)) : Prop :=
  ∀ before refused admitted i (b : Breaker),
    events = before ++ refused ++ admitted →
    (run before).breakers.scopes[scope]? = some i →
    (run before).breakers.breakers[i]? = some b →
    b.state.isOpen = true →
    (run before).admissions i refused = [] →
    (∀ n, n ∈ ledger i ((run (before ++ refused)).history admitted) → n.endsTrial = false) →
    ((run (before ++ refused)).admissions i admitted).length ≤ b.settings.halfOpenTrials ∧
    ∀ g, g ∈ (run (before ++ refused)).admissions i admitted → g.probe = true

/--
A closed breaker of a scope has counted fewer failures than open it, and lets every call pass.
-/
def PassesWhileClosed (scope : String) (events : List (Event α)) : Prop :=
  (∀ (b : Breaker) failures windowStart,
    (run events).breakers.find? scope = some b →
    b.state = .closed failures windowStart →
    failures < b.settings.failureThreshold) ∧
  ((∀ b, (run events).breakers.find? scope = some b →
      ∃ failures windowStart, b.state = .closed failures windowStart) →
    ∀ p now, ∃ g,
      ((run events).meet (.start (some p) scope now)).guards = (run events).guards ++ [some g] ∧
      g.probe = false)

section Protection

variable {w : Switchboard α}
variable {scope : String}
variable {i : Nat}
variable {settings : BreakerSettings}

theorem find?_eq_some_iff {r : BreakerRegistry} {b : Breaker} :
    r.find? scope = some b ↔ ∃ i, r.scopes[scope]? = some i ∧ r.breakers[i]? = some b := by
  unfold BreakerRegistry.find?
  exact Option.bind_eq_some_iff

/-- A refused call leaves all as it is. -/
theorem meet_start_of_rejected
    {b : Breaker}
    (hscope : w.breakers.scopes[scope]? = some i)
    (hb : w.breakers.breakers[i]? = some b)
    {now : Instant}
    (hcheck : b.check now = (b, .rejected))
    (p : Policy) :
    w.meet (.start (some p) scope now) =
      { w with calls := w.calls ++ [some (.ended (.error (.circuitOpen scope)))] } := by
  have hstart : (Call.start w.breakers (some p) scope now : _ × Call α) =
      (w.breakers, .ended (.error (.circuitOpen scope))) := by
    rw [Call.start_some]
    simp only [BreakerRegistry.getOrCreate, hscope, w.breakers.check_of_rejected hb hcheck]
    rfl
  simp only [meet, hstart]
  congr 1
  funext j
  simp [entering, Call.guard?]

/-- Only a failure of a call opens a breaker, and for a break from its instant on. -/
theorem opened_of_meet
    (hw : w.Sound)
    {e : Event α}
    {retryAt : Instant}
    (hset : (w.meet e).SetTo i settings)
    (hbefore : (w.watch i settings).breaker.state.isOpen = false)
    (hafter : ((w.meet e).watch i settings).breaker.state = .opened retryAt) :
    ∃ t,
      e.now? = some t ∧
      retryAt = t + (w.watch i settings).breaker.settings.breakDuration := by
  rw [(watch_meet hw hset).1] at hafter
  have hidle : w.acts i e ≠ [] := by
    intro h
    rw [h] at hafter
    have hopen := congrArg BreakerState.isOpen hafter
    exact Bool.false_ne_true (hbefore.symm.trans hopen)
  cases met hw.scopes e with
  | begun p scope now j b _ _ _ _ hacts =>
      rw [hacts] at hafter
      split at hafter
      all_goals
        rw [Watch.after_singleton] at hafter
        obtain ⟨_, _, hevent, _⟩ := Watch.opened_of_meet hbefore hafter
        cases hevent
  | unguarded scope now hevent =>
      subst hevent
      obtain ⟨_, _, hevent, _⟩ := Watch.opened_of_meet (e := .elsewhere) hbefore hafter
      cases hevent
  | ended call succeeded now hending _ _ _ hacts =>
      rw [hacts, Watch.after_singleton] at hafter
      obtain ⟨_, t, hevent, hretry⟩ := Watch.opened_of_meet hbefore hafter
      cases hevent
      exact ⟨now, now?_of_ending? hending, hretry⟩
  | cleared hevent =>
      subst hevent
      exact absurd rfl hidle
  | idle _ _ _ hacts => exact absurd (hacts i) hidle

/-- An open breaker stays as it is as long as the calls of its scope come early. -/
theorem getElem?_after_of_opened
    (hw : w.Sound)
    (hscope : w.breakers.scopes[scope]? = some i)
    {b : Breaker}
    (hb : w.breakers.breakers[i]? = some b)
    {retryAt : Instant}
    (hstate : b.state = .opened retryAt)
    {events : List (Event α)}
    (hevents : ∀ e, e ∈ events → e ≠ .clear)
    (hearly : ∀ p now, .start (some p) scope now ∈ events → now < retryAt) :
    (w.after events).breakers.breakers[i]? = some b := by
  have hset := setTo_after hw hb events
  have hthere := (hw.after events).scopes.there (scopes_after hw hevents hscope)
  have hwatch := breaker_watch hb b.settings
  have hopened : (w.watch i b.settings).breaker.state = .opened retryAt := by
    rw [hwatch, hstate]
  have hnone := Watch.admissions_of_opened hopened fun now hask => by
    obtain ⟨p, hp⟩ := ask_mem_actsAlong hw hscope hevents hask
    exact hearly p now hp
  rw [getElem?_eq_watch hthere, (watch_after hw hset).1, Watch.after_of_opened hopened hnone,
    hwatch]

/-- The breaker of a scope is not open before an event if the scope has no open breaker by then. -/
theorem isOpen_watch
    (hw : w.Sound)
    {e : Event α}
    (hscope : (w.meet e).breakers.scopes[scope]? = some i)
    (h : ∀ b, w.breakers.find? scope = some b → b.state.isOpen = false)
    (settings : BreakerSettings) :
    (w.watch i settings).breaker.state.isOpen = false := by
  cases hb : w.breakers.breakers[i]? with
  | none =>
      unfold watch
      rw [hb]
      rfl
  | some b =>
      rw [breaker_watch hb]
      rcases scopes_of_meet hw.scopes hscope with hi | hnone
      · exact h b (find?_eq_some_iff.2 ⟨i, hi, hb⟩)
      · rw [hb] at hnone
        cases hnone

theorem refusesWhileOpen
    {events : List (Event α)}
    (hevents : ∀ e, e ∈ events → e ≠ .clear)
    (scope : String) :
    RefusesWhileOpen scope events := by
  intro before e between opened t now hsplit htime hbefore hopened hopen hearly hbreak
  have hw := sound_run before
  have hnext : run (before ++ [e]) = (run before).meet e := run_append before [e]
  have hlast : run events = ((run before).meet e).after between := by
    rw [hsplit]
    exact run_append before (e :: between)
  have hbetween : ∀ e', e' ∈ between → e' ≠ .clear := by
    intro e' he'
    exact hevents e' (hsplit ▸ List.mem_append_right before (List.mem_cons_of_mem e he'))
  rw [hnext] at hopened
  obtain ⟨i, hscope, hget⟩ := find?_eq_some_iff.1 hopened
  obtain ⟨retryAt, hstate⟩ := BreakerState.exists_of_isOpen hopen
  -- the break is counted from the instant of the event
  have hset := setTo_of_getElem? hget
  have hwatch := breaker_watch hget opened.settings
  have hclosed := isOpen_watch hw hscope hbefore opened.settings
  obtain ⟨t', ht', hretry⟩ := opened_of_meet hw hset hclosed (by rw [hwatch, hstate])
  rw [htime] at ht'
  cases ht'
  have hearly' : now < retryAt := by
    rw [(watch_meet hw hset).1] at hwatch
    rw [hretry, ← Watch.settings_after _ ((run before).acts i e), hwatch]
    exact hbreak
  have hstays := getElem?_after_of_opened (hw.meet e) hscope hget hstate hbetween
    fun p t' hp => Nat.lt_of_le_of_lt (hearly p t' hp) hearly'
  have hscope' := scopes_after (hw.meet e) hbetween hscope
  rw [hlast]
  refine ⟨find?_eq_some_iff.2 ⟨i, hscope', hstays⟩, ?_⟩
  intro p
  refine meet_start_of_rejected hscope' hstays ?_ p
  simp [Breaker.check, hstate, Nat.not_le_of_lt hearly']

theorem limitsTrials
    {events : List (Event α)}
    (husable : ∀ e, e ∈ events → e.Under BreakerSettings.Usable)
    (scope : String) :
    LimitsTrials scope events := by
  intro before refused admitted i b hsplit _ hb hopen hrefused hadmitted
  subst hsplit
  obtain ⟨retryAt, hstate⟩ := BreakerState.exists_of_isOpen hopen
  have hw := sound_run before
  have hmany : 1 ≤ b.settings.halfOpenTrials := by
    refine (settings_after sound_new ?_ (by simp) i b hb : b.settings.Usable).2
    intro e he
    exact husable e (List.mem_append_left _ (List.mem_append_left _ he))
  -- the breaker stays as it is until the first call passes
  have hwatch := breaker_watch hb b.settings
  have hopened : ((run before).watch i b.settings).breaker.state = .opened retryAt := by
    rw [hwatch, hstate]
  obtain ⟨hafter, hhistory⟩ := watch_after hw (setTo_after hw hb refused)
  have hnone := admissions_history hw refused i
  rw [hrefused, hhistory] at hnone
  have hstays := Watch.after_of_opened hopened hnone.symm
  rw [← hafter, hwatch] at hstays
  -- and counts its trials from then on
  have hw' := hw.after refused
  have hset := setTo_after hw hb (refused ++ admitted)
  rw [after_append] at hset
  rw [run_append] at hadmitted ⊢
  have hadmissions := admissions_history hw' admitted i
  rw [(watch_after hw' hset).2] at hadmitted hadmissions
  obtain ⟨hlength, hall⟩ := Watch.trials_of_opened (by rw [hstays, hstate]) hadmitted
  rw [hstays, Nat.max_eq_right hmany, ← hadmissions, List.length_map] at hlength
  refine ⟨hlength, ?_⟩
  intro g hg
  exact hall g.probe (hadmissions ▸ List.mem_map_of_mem hg)

theorem passesWhileClosed
    {events : List (Event α)}
    (husable : ∀ e, e ∈ events → e.Under BreakerSettings.Usable)
    (scope : String) :
    PassesWhileClosed scope events := by
  constructor
  · intro b failures windowStart hb hstate
    obtain ⟨i, _, hget⟩ := find?_eq_some_iff.1 hb
    have hmany : b.settings.Usable := settings_after sound_new husable (by simp) i b hget
    have htidy := tidy_watch (setTo_of_getElem? hget)
    have hwatch := breaker_watch hget b.settings
    have hfew := htidy.few failures windowStart (by rw [hwatch, hstate])
    rw [hwatch] at hfew
    exact Nat.max_eq_right hmany.1 ▸ hfew
  · intro hclosed p now
    obtain ⟨i, b, hnext, _, _⟩ := begun_meet (sound_run events).scopes p scope now
    have hstate : ∃ failures windowStart, b.state = .closed failures windowStart := by
      have hb := hnext.breaker
      cases hget : (run events).breakers.breakers[i]? with
      | none =>
          rw [hget] at hb
          exact ⟨0, none, by rw [← hb]; rfl⟩
      | some b' =>
          rw [hget] at hb
          cases hb
          rcases hnext.inCharge with hi | ⟨_, hi⟩
          · exact hclosed b' (find?_eq_some_iff.2 ⟨i, hi, hget⟩)
          · exact absurd (Array.getElem?_eq_some_iff.1 hget).1 (Nat.not_lt_of_le (Nat.le_of_eq hi))
    obtain ⟨failures, windowStart, hstate⟩ := hstate
    refine ⟨⟨i, false, now + p.timeout⟩, ?_, rfl⟩
    rw [hnext.guards]
    simp [Breaker.check, hstate, BreakerCheck.trial?]

/--
Whatever calls of a scope are begun, succeed, fail, run out of time and are given up in whatever
order, its breaker refuses them for a break after each opening, lets only its trials pass after the
break, and counts fewer failures than its threshold and lets all of them pass while it is closed.
-/
theorem protected_scope
    (events : List (Event α))
    (hevents : ∀ e, e ∈ events → e ≠ .clear)
    (husable : ∀ e, e ∈ events → e.Under BreakerSettings.Usable)
    (scope : String) :
    RefusesWhileOpen scope events ∧ LimitsTrials scope events ∧ PassesWhileClosed scope events :=
  ⟨refusesWhileOpen hevents scope, limitsTrials husable scope, passesWhileClosed husable scope⟩

/-- The breakers of a configuration protect their scopes, whatever is configured. -/
theorem protects_of_configured
    (events : List (Event α))
    (hevents : ∀ e, e ∈ events → e ≠ .clear)
    (hconfigured : ∀ e, e ∈ events → e.Configured)
    (scope : String) :
    RefusesWhileOpen scope events ∧ LimitsTrials scope events ∧ PassesWhileClosed scope events :=
  have husable := fun e he => (hconfigured e he).under fun _ h => h
  ⟨refusesWhileOpen hevents scope, limitsTrials husable scope, passesWhileClosed husable scope⟩

end Protection

section Tripped

/-- A policy under which one failure opens the breaker for a hundred, until two trials pass. -/
def quick : Policy where
  timeout := 5
  breaker :=
    { failureThreshold := 1
      breakDuration := 100
      halfOpenTrials := 2
      failureWindow := 10 }
  scope := .route

/-- A call of a scope under this policy. -/
def quickAt (now : Instant) : Event Unit := .start (some quick) "scope" now

/-- A call runs out of time, which opens the breaker until 105; another one is refused. -/
def tripped : List (Event Unit) := [quickAt 0, .expire 0 5, quickAt 50]

/-- Until 105 calls are refused; of three calls from then on, two pass at most. -/
theorem protected_scope_tripped :
    (run tripped).meet (quickAt 104) =
      { run tripped with
        calls := (run tripped).calls ++ [some (.ended (.error (.circuitOpen "scope")))] } ∧
    ((run tripped).admissions 0 [quickAt 105, quickAt 106, quickAt 107]).length ≤ 2 := by
  have hclosed : (run [quickAt 0]).breakers.find? "scope" = some { settings := quick.breaker } := by
    decide
  have hopened : (run (tripped.take 2)).breakers.find? "scope" =
      some { settings := quick.breaker, state := .opened 105 } := by decide
  obtain ⟨hrefuses, _, _⟩ := protected_scope tripped (by simp [tripped, quickAt])
    (by simp [tripped, quickAt, quick, Event.Under, BreakerSettings.Usable]) "scope"
  obtain ⟨_, hlimits, _⟩ := protected_scope (tripped ++ [quickAt 105, quickAt 106, quickAt 107])
    (by simp [tripped, quickAt])
    (by simp [tripped, quickAt, quick, Event.Under, BreakerSettings.Usable]) "scope"
  constructor
  · refine (hrefuses [quickAt 0] (.expire 0 5) [quickAt 50] _ 5 104 rfl rfl ?_ hopened rfl ?_ ?_).2
      quick
    · intro b hb
      rw [hclosed] at hb
      cases hb
      rfl
    · intro p t hp
      cases List.mem_singleton.1 hp
      decide
    · decide
  · exact (hlimits (tripped.take 2) [quickAt 50] _ 0 _ rfl rfl rfl rfl rfl (by decide)).1

end Tripped

end Switchboard
end Qos
end ApiGateway
