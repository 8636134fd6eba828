import ApiGateway.Proofs.RateLimit.Turnstile

/-!
# What holds of checks that overlap

Who has confirmed a counter holds its lock, and as long as the lock is held no sweep takes the
counter: so attempts are counted on the registered counter only (`Sound`). What is counted there is
what was admitted since the window opened. As the plain window, the turnstile admits no more than
twice the limit in any stretch of time that is as long as a window (`Reckoned`), if the windows end
before the clock that sweeps read goes round: then a sweep takes a counter only when its window is
over.

Main statement: `counts_on_registered`.
-/

namespace ApiGateway
namespace RateLimit

namespace Turnstile

variable {p : Policy}
variable {s s' : Turnstile}
variable {a : Action}

section Locks

/-- What holds of locks: each has one holder, and what a check has confirmed stays registered. -/
structure Locked (s : Turnstile) : Prop where
  held : ∀ k id, s.phase k = .holding id ∨ s.phase k = .confirmed id → s.holder id = some k
  live : ∀ k id, s.phase k = .confirmed id → s.registered = some id

/-- A check may go on to where it holds the lock that this asks for. -/
theorem Locked.move
    (h : Locked s)
    {k : Nat}
    {ph : Phase}
    (hheld : ∀ id, ph = .holding id ∨ ph = .confirmed id → s.holder id = some k)
    (hlive : ∀ id, ph = .confirmed id → s.registered = some id) :
    Locked { s with phase := Function.update s.phase k ph } := by
  refine ⟨fun j id hj => ?_, fun j id hj => ?_⟩ <;> simp only [Function.update_apply] at hj
  · split at hj
    · rename_i hjk
      rw [hjk]
      exact hheld id hj
    · exact h.held j id hj
  · split at hj
    · exact hlive id hj
    · exact h.live j id hj

/-- A lock that nobody holds may be given to a check. -/
theorem Locked.grant
    (h : Locked s)
    {id : Nat}
    (hfree : s.holder id = none)
    (k : Nat) :
    Locked { s with holder := Function.update s.holder id (some k) } := by
  refine ⟨fun j id' hj => ?_, h.live⟩
  have hheld : s.holder id' = some j := h.held j id' hj
  have hother : id' ≠ id := by
    rintro rfl
    cases hfree.symm.trans hheld
  exact (Function.update_of_ne hother ..).trans hheld

/-- Who lets a lock go is the only one who held it. -/
theorem Locked.release
    (h : Locked s)
    {k id : Nat}
    (hself : s.phase k = .holding id ∨ s.phase k = .confirmed id)
    (ph : Phase)
    (hph : ∀ id', ph ≠ .holding id' ∧ ph ≠ .confirmed id') :
    Locked { s with
      phase := Function.update s.phase k ph
      holder := Function.update s.holder id none } := by
  have hmoved : Locked { s with phase := Function.update s.phase k ph } :=
    h.move (fun id' hor => (hor.elim (hph id').1 (hph id').2).elim)
      (fun id' hconf => absurd hconf (hph id').2)
  refine ⟨fun j id' hj => ?_, hmoved.live⟩
  have hheld : s.holder id' = some j := hmoved.held j id' hj
  have hother : id' ≠ id := by
    rintro rfl
    have hsame : j = k := Option.some.inj (hheld.symm.trans (h.held k id' hself))
    simp only [hsame, Function.update_self] at hj
    exact hj.elim (hph id').1 (hph id').2
  exact (Function.update_of_ne hother ..).trans hheld

/-- Every action keeps what holds of locks. -/
theorem Locked.step
    (h : Locked s)
    (hstep : s.Stepped p a s') :
    Locked s' := by
  cases hstep with
  | idle => exact h
  | advanced _ => exact ⟨h.held, h.live⟩
  | found _ _ => exact h.move (by simp) (by simp)
  | made _ hreg =>
      -- Nothing was registered, so nothing is confirmed.
      have hnone : ∀ k id, s.phase k ≠ .confirmed id := by
        intro k id hk
        cases hreg.symm.trans (h.live k id hk)
      have hopened : Locked { s with
          made := s.made + 1
          counter := Function.update s.counter s.made (.opened p.period s.now)
          registered := some s.made
          log := .opened s.now :: s.log } :=
        ⟨h.held, fun k id hk => absurd hk (hnone k id)⟩
      exact hopened.move (by simp) (by simp)
  | @locked k id _ hfree =>
      refine (h.grant hfree k).move (fun id' hor => ?_) (by simp)
      simp only [Phase.holding.injEq, reduceCtorEq, or_false] at hor
      rw [← hor]
      exact Function.update_self ..
  | @confirmed k id hphase hreg =>
      refine h.move (fun id' hor => ?_) (fun id' hconf => ?_)
      · simp only [reduceCtorEq, Phase.confirmed.injEq, false_or] at hor
        exact hor ▸ h.held k id (Or.inl hphase)
      · cases hconf
        exact hreg
  | retried hphase _ => exact h.release (Or.inl hphase) _ (by simp)
  | @ruled k id hphase =>
      have hreleased := h.release (Or.inr hphase) (.done ((s.counter id).attempt p s.now).2)
        (by simp)
      exact ⟨hreleased.held, hreleased.live⟩
  | @swept _ id _ hreg _ hfree =>
      -- The lock of a counter that was confirmed is held.
      refine ⟨h.held, fun j id' hj => ?_⟩
      have hheld := h.held j id' (Or.inr hj)
      cases hreg.symm.trans (h.live j id' hj)
      cases hfree.symm.trans hheld

end Locks

section Counts

/-- Notes without an opening hold no more admissions than were made since the last one before. -/
theorem countP_admits_le_sinceOpening
    {between : List Note}
    (h : ∀ n, n ∈ between → n.opens = false)
    (earlier : List Note) :
    between.countP Note.admits ≤ sinceOpening (between ++ earlier) := by
  induction between with
  | nil => exact Nat.zero_le _
  | cons n ns ih =>
      have hopen : ¬ n.opens = true := by
        rw [h n List.mem_cons_self]
        decide
      have hns := ih fun m hm => h m (List.mem_cons_of_mem _ hm)
      rw [List.countP_cons, List.cons_append, sinceOpening, if_neg hopen]
      exact Nat.add_le_add_right hns _

/-- What is counted in a window that opens anew with the attempt, if it does. -/
theorem count_renewed
    {c : Counter}
    {log : List Note}
    (h : c.count = sinceOpening log)
    (now : Instant) :
    (c.renewed p.period now).count = sinceOpening (openingBy p c now ++ log) := by
  unfold Counter.renewed openingBy
  split
  · rfl
  · exact h

/-- The attempt is counted if and only if it is admitted, and only below the limit. -/
theorem count_attempt
    {c : Counter}
    {ns : List Note}
    {now : Instant}
    (h : (c.renewed p.period now).count = sinceOpening ns)
    (hns : sinceOpening ns ≤ p.limit)
    (id : Nat)
    (registered : Option Nat) :
    (c.attempt p now).1.count =
      sinceOpening (.decided now id registered (c.attempt p now).2 :: ns) ∧
    sinceOpening (.decided now id registered (c.attempt p now).2 :: ns) ≤ p.limit := by
  rcases c.attempt_cases p now with ⟨_, ha⟩ | ⟨hroom, ha⟩ <;> rw [ha]
  · exact ⟨h, hns⟩
  · rw [h] at hroom
    exact ⟨congrArg (· + 1) h, hroom⟩

/-- What holds of the notes: attempts were counted on the registered counter, within the limit. -/
structure Sound (p : Policy) (s : Turnstile) : Prop extends Locked s where
  onRegistered : ∀ t id r d, .decided t id r d ∈ s.log → r = some id
  counted : ∀ id, s.registered = some id → (s.counter id).count = sinceOpening s.log
  within : ∀ earlier, earlier <:+ s.log → sinceOpening earlier ≤ p.limit

/-- An opening is no decision. -/
theorem decided_mem_of_openingBy
    {c : Counter}
    {now t : Instant}
    {log : List Note}
    {id : Nat}
    {r : Option Nat}
    {d : Decision}
    (h : .decided t id r d ∈ openingBy p c now ++ log) :
    .decided t id r d ∈ log := by
  unfold openingBy at h
  split at h
  · rcases List.mem_cons.1 h with h | h
    · cases h
    · exact h
  · exact h

/-- Openings ask for no room. -/
theorem within_openingBy
    {log : List Note}
    (h : ∀ earlier, earlier <:+ log → sinceOpening earlier ≤ p.limit)
    (c : Counter)
    (now : Instant) :
    ∀ earlier, earlier <:+ openingBy p c now ++ log → sinceOpening earlier ≤ p.limit := by
  intro earlier hsuffix
  unfold openingBy at hsuffix
  split at hsuffix
  · rcases List.suffix_cons_iff.1 hsuffix with rfl | hlog
    · exact Nat.zero_le _
    · exact h earlier hlog
  · exact h earlier hsuffix

/-- Every action keeps what holds of the notes. -/
theorem Sound.step
    (h : Sound p s)
    (hstep : s.Stepped p a s') :
    Sound p s' := by
  have hlocked := h.toLocked.step hstep
  cases hstep with
  | made _ hreg =>
      refine ⟨hlocked, ?_, ?_, ?_⟩
      · intro t id r d hd
        rcases List.mem_cons.1 hd with hd | hd
        · cases hd
        · exact h.onRegistered t id r d hd
      · rintro id ⟨⟩
        simp only [Function.update_self]
        rfl
      · intro earlier hsuffix
        rcases List.suffix_cons_iff.1 hsuffix with rfl | hlog
        · exact Nat.zero_le _
        · exact h.within earlier hlog
  | @ruled k id hphase =>
      have hreg : s.registered = some id := h.live k id hphase
      have hrenewed := count_renewed (p := p) (h.counted id hreg) s.now
      have hwithin := within_openingBy h.within (s.counter id) s.now
      have hcount := count_attempt hrenewed (hwithin _ List.suffix_rfl) id s.registered
      refine ⟨hlocked, ?_, ?_, ?_⟩
      · intro t id' r d hd
        rcases List.mem_cons.1 hd with hd | hd
        · cases hd
          exact hreg
        · exact h.onRegistered t id' r d (decided_mem_of_openingBy hd)
      · intro id' hid'
        cases hreg.symm.trans hid'
        simp only [rule, Function.update_self]
        exact hcount.1
      · intro earlier hsuffix
        rcases List.suffix_cons_iff.1 hsuffix with rfl | hrest
        · exact hcount.2
        · exact hwithin earlier hrest
  | swept => exact ⟨hlocked, h.onRegistered, fun _ hid => absurd hid.symm (Option.some_ne_none _),
      h.within⟩
  | idle | advanced | found | locked | confirmed | retried =>
      exact ⟨hlocked, h.onRegistered, h.counted, h.within⟩

end Counts

section Windows

/-- A window that opens at an instant ends before the clock that sweeps read goes round. -/
def EndsEarly (p : Policy) (t : Instant) : Prop :=
  Duration.micros (t + p.period) < readingBound

instance (p : Policy) (t : Instant) : Decidable (EndsEarly p t) :=
  inferInstanceAs (Decidable (_ < _))

theorem EndsEarly.fits
    {t : Instant}
    (h : EndsEarly p t) :
    Fits p.period t :=
  fits_of_end_lt h

/-- A sweep that reads such an end comes after it, however old its reading is. -/
theorem end_le_of_early
    {stop t : Nat}
    (hwhole : stop % 1000 = 0)
    (hearly : Duration.micros stop < readingBound)
    (hread : microReading stop ≤ microReading t) :
    stop ≤ t := by
  unfold microReading Duration.micros readingBound at *
  omega

/-- A counter that is shown is the one of a window. -/
theorem exists_toCounter_of_shows
    {period : Duration}
    {last : Instant}
    {c : Counter}
    {w : Option Window}
    (h : Shows period last (some c) w) :
    ∃ v : Window,
      w = some v ∧
      c = v.toCounter period ∧
      v.start ≤ last ∧
      (v.start + period) % 1000 = 0 := by
  cases h with
  | live hstart hwhole _ => exact ⟨_, rfl, rfl, hstart, hwhole⟩

/--
What the plain window knows of the turnstile: it is shown by the registered counter, if there is
one, and the admissions from the instant `since` on, for a period, are counted with it.
-/
structure Reckoned (p : Policy) (since : Instant) (s : Turnstile) (w : Option Window) : Prop where
  whole : s.now % 1000 = 0
  shows : Shows p.period s.now s.registeredCounter w
  fresh : w = none → s.decisions = []
  counted : ∀ v, w = some v →
    Window.Counted p.limit p.period since s.now v (Window.admissions since p.period s.decisions)
  early : ∀ v, w = some v → EndsEarly p v.start

namespace Reckoned

variable {since : Instant}
variable {w : Option Window}

/-- A window that opens when there was none or the last one is over is counted from its start. -/
theorem counted_opening
    (h : Reckoned p since s w)
    (hover : ∀ v, w = some v → v.start + p.period ≤ s.now) :
    Window.Counted p.limit p.period since s.now ⟨s.now, 0⟩
      (Window.admissions since p.period s.decisions) := by
  cases hw : w with
  | none =>
      rw [h.fresh hw]
      exact ⟨Nat.zero_le _, Nat.le_refl _, fun _ => rfl, fun _ => Nat.zero_le _,
        fun _ _ => Nat.zero_le _, Nat.zero_le _⟩
  | some v =>
      have hcurrent := (h.counted v hw).current (Nat.le_refl s.now)
      rcases Window.current_cases p.period v s.now with ⟨hin, _⟩ | ⟨_, hc⟩
      · exact absurd (hover v hw) (Nat.not_le_of_lt hin)
      · rw [hc] at hcurrent
        exact hcurrent

/-- Only openings and decisions matter. -/
theorem congr
    (h : Reckoned p since s w)
    (hnow : s'.now = s.now)
    (hcounter : s'.registeredCounter = s.registeredCounter)
    (hdecisions : s'.decisions = s.decisions) :
    Reckoned p since s' w := by
  refine ⟨hnow ▸ h.whole, ?_, fun hw => hdecisions.trans (h.fresh hw), ?_, h.early⟩
  · rw [hnow, hcounter]
    exact h.shows
  · rw [hnow, hdecisions]
    exact h.counted

/-- The clock goes on. -/
theorem advance
    (h : Reckoned p since s w)
    {t : Instant}
    (hnow : s.now ≤ t)
    (hwhole : t % 1000 = 0) :
    Reckoned p since { s with now := t } w := by
  refine ⟨hwhole, h.shows.later hnow, h.fresh, fun v hv => ?_, h.early⟩
  obtain ⟨hroom, hstarted, hearly, hfirst, hsecond, htotal⟩ := h.counted v hv
  exact ⟨hroom, Nat.le_trans hstarted hnow,
    fun hta => hearly (Nat.lt_of_le_of_lt hnow hta), hfirst, hsecond, htotal⟩

/-- A counter is made when there was none or a sweep has taken it after its window. -/
theorem make
    (h : Reckoned p since s w)
    (hperiod : p.period % 1000 = 0)
    (hreg : s.registered = none)
    (hearly : EndsEarly p s.now)
    (phase : Nat → Phase) :
    Reckoned p since
      { s with
        made := s.made + 1
        counter := Function.update s.counter s.made (.opened p.period s.now)
        registered := some s.made
        phase := phase
        log := .opened s.now :: s.log }
      (some ⟨s.now, 0⟩) := by
  have hwhole : (s.now + p.period) % 1000 = 0 := by rw [Nat.add_mod, h.whole, hperiod]
  have hover : ∀ v, w = some v → v.start + p.period ≤ s.now := by
    have hshows := h.shows
    rw [registeredCounter, hreg, Option.map_none] at hshows
    rintro v rfl
    cases hshows with
    | swept hend => exact hend
  refine ⟨h.whole, ?_, fun hnone => absurd hnone (Option.some_ne_none _), ?_, ?_⟩
  · simp only [registeredCounter, Option.map_some, Function.update_self]
    exact .live (w := ⟨s.now, 0⟩) (Nat.le_refl _) hwhole hearly.fits
  · rintro v ⟨⟩
    exact h.counted_opening hover
  · rintro v ⟨⟩
    exact hearly

/-- An attempt is decided on as in the plain window. -/
theorem rule
    (h : Reckoned p since s w)
    (hperiod : p.period % 1000 = 0)
    {k id : Nat}
    (hreg : s.registered = some id)
    (hearly : ∀ t, .opened t ∈ openingBy p (s.counter id) s.now → EndsEarly p t) :
    ∃ v, Reckoned p since (s.rule p k id) (some v) := by
  have hshows := h.shows
  rw [registeredCounter, hreg, Option.map_some] at hshows
  obtain ⟨v, rfl, hcounter, hstart, hwhole⟩ := exists_toCounter_of_shows hshows
  have hattempt := attempt_toCounter p v hstart
  rw [← hcounter] at hattempt
  -- The window to which the attempt belongs is as good as the one before.
  have hcurrent : (Window.current p.period (some v) s.now).start ≤ s.now ∧
      ((Window.current p.period (some v) s.now).start + p.period) % 1000 = 0 ∧
      EndsEarly p (Window.current p.period (some v) s.now).start := by
    rcases Window.current_cases p.period v s.now with ⟨_, hc⟩ | ⟨hend, hc⟩ <;> rw [hc]
    · exact ⟨hstart, hwhole, h.early v rfl⟩
    · refine ⟨Nat.le_refl _, by rw [Nat.add_mod, h.whole, hperiod], hearly s.now ?_⟩
      have hover : p.period ≤ s.now - (s.counter id).windowStart := by
        rw [hcounter]
        exact Nat.le_sub_of_add_le (Nat.add_comm p.period v.start ▸ hend)
      rw [openingBy, if_pos hover]
      exact List.mem_cons_self
  have hcounted := ((h.counted v rfl).current (Nat.le_refl s.now)).rule
  generalize Window.current p.period (some v) s.now = current at hattempt hcurrent hcounted
  have hdecisions : (s.rule p k id).decisions =
      (s.now, (Window.rule p.limit p.period current s.now).2) :: s.decisions := by
    simp only [decisions, Turnstile.rule, List.filterMap_cons, Note.decision?, hattempt,
      List.filterMap_append]
    unfold openingBy
    split <;> rfl
  refine ⟨(Window.rule p.limit p.period current s.now).1, h.whole, ?_,
    fun hnone => absurd hnone (Option.some_ne_none _), ?_, ?_⟩
  · have hafter : (s.rule p k id).registeredCounter =
        some ((Window.rule p.limit p.period current s.now).1.toCounter p.period) := by
      simp only [registeredCounter, Turnstile.rule, hreg, Option.map_some, Function.update_self,
        hattempt]
    rw [hafter]
    refine .live ?_ ?_ ?_ <;> rw [Window.start_rule]
    · exact hcurrent.1
    · exact hcurrent.2.1
    · exact hcurrent.2.2.fits
  · rintro _ ⟨⟩
    rw [hdecisions, ← List.singleton_append, Window.admissions, List.countP_append, Nat.add_comm]
    exact hcounted
  · rintro _ ⟨⟩
    rw [Window.start_rule]
    exact hcurrent.2.2

/-- A sweep takes a counter only when its window is over. -/
theorem sweep
    (h : Reckoned p since s w)
    {reading : Instant}
    {id : Nat}
    (hreading : reading ≤ s.now)
    (hreg : s.registered = some id)
    (hend : (s.counter id).windowEndMicros ≤ microReading reading) :
    Reckoned p since { s with registered := none } w := by
  have hshows := h.shows
  rw [registeredCounter, hreg, Option.map_some] at hshows
  obtain ⟨v, rfl, hcounter, _, hwhole⟩ := exists_toCounter_of_shows hshows
  rw [hcounter] at hend
  have hover : v.start + p.period ≤ reading := end_le_of_early hwhole (h.early v rfl) hend
  exact ⟨h.whole, .swept (Nat.le_trans hover hreading), h.fresh, h.counted, h.early⟩

/-- Every action keeps what the plain window knows. -/
theorem step
    (h : Reckoned p since s w)
    (hlocked : Locked s)
    (hperiod : p.period % 1000 = 0)
    (hstep : s.Stepped p a s')
    (hwhole : ∀ t, a = .advance t → t % 1000 = 0)
    (hearly : ∀ t, .opened t ∈ s'.log → EndsEarly p t) :
    ∃ w', Reckoned p since s' w' := by
  cases hstep with
  | advanced hnow => exact ⟨w, h.advance hnow (hwhole _ rfl)⟩
  | made _ hreg => exact ⟨_, h.make hperiod hreg (hearly s.now List.mem_cons_self) _⟩
  | @ruled k id hphase =>
      obtain ⟨v, hv⟩ := h.rule hperiod (hlocked.live k id hphase) fun t ht =>
        hearly t (List.mem_cons_of_mem _ (List.mem_append_left _ ht))
      exact ⟨some v, hv⟩
  | swept hreading hreg hend _ => exact ⟨w, h.sweep hreading hreg hend⟩
  | idle | found | locked | confirmed | retried => exact ⟨w, h.congr rfl rfl rfl⟩

end Reckoned

end Windows

section Runs

variable (p)

theorem after_append_singleton (s : Turnstile) (actions : List Action) (a : Action) :
    s.after p (actions ++ [a]) = (s.after p actions).step p a := by
  rw [after, List.foldl_append]
  rfl

/-- Nothing is taken out of the notes. -/
theorem Stepped.log_suffix
    {p : Policy}
    (h : s.Stepped p a s') :
    s.log <:+ s'.log := by
  cases h with
  | made => exact List.suffix_cons ..
  | ruled => exact (List.suffix_append ..).trans (List.suffix_cons ..)
  | idle | advanced | found | locked | confirmed | retried | swept => exact List.suffix_rfl

/-- What holds of locks and notes does so in every run. -/
theorem sound_after (actions : List Action) : Sound p (({} : Turnstile).after p actions) := by
  induction actions using List.reverseRecOn with
  | nil =>
      refine ⟨⟨?_, nofun⟩, nofun, nofun, ?_⟩
      · rintro k id (hk | hk) <;> cases hk
      · intro earlier h
        rw [List.eq_nil_of_suffix_nil h]
        exact Nat.zero_le _
  | append_singleton actions a ih =>
      rw [after_append_singleton]
      exact ih.step (stepped p _ a)

/-- The plain window keeps up with every run whose windows end early. -/
theorem reckoned_after
    (since : Instant)
    {p : Policy}
    (hperiod : p.period % 1000 = 0)
    {actions : List Action}
    (hwhole : ∀ t, .advance t ∈ actions → t % 1000 = 0)
    (hearly : ∀ t, .opened t ∈ (({} : Turnstile).after p actions).log → EndsEarly p t) :
    ∃ w, Reckoned p since (({} : Turnstile).after p actions) w := by
  induction actions using List.reverseRecOn with
  | nil => exact ⟨none, rfl, .fresh, fun _ => rfl, nofun, nofun⟩
  | append_singleton actions a ih =>
      rw [after_append_singleton] at hearly ⊢
      have hstep := stepped p (({} : Turnstile).after p actions) a
      obtain ⟨w, hw⟩ := ih (fun t ht => hwhole t (List.mem_append_left _ ht))
        (fun t ht => hearly t (hstep.log_suffix.subset ht))
      refine hw.step (sound_after p actions).toLocked hperiod hstep ?_ hearly
      rintro t rfl
      exact hwhole t (List.mem_append_right _ List.mem_cons_self)

/--
In whatever order the steps of any number of checks, sweeps and the clock come: every attempt is
counted on the counter that is registered at that moment; from one opening of the window to the
next, no more attempts are admitted than the limit; and if the period and the instants are whole
microseconds and no window reaches beyond the clock that sweeps read, no stretch of time as long as
a window holds more admissions than twice the limit.
-/
theorem counts_on_registered (actions : List Action) :
    (∀ t id r d, .decided t id r d ∈ (({} : Turnstile).after p actions).log → r = some id) ∧
    (∀ later between earlier : List Note,
      (({} : Turnstile).after p actions).log = later ++ (between ++ earlier) →
      (∀ n, n ∈ between → n.opens = false) →
      between.countP Note.admits ≤ p.limit) ∧
    (p.period % 1000 = 0 →
      (∀ t, .advance t ∈ actions → t % 1000 = 0) →
      (∀ t, .opened t ∈ (({} : Turnstile).after p actions).log → EndsEarly p t) →
      ∀ a,
        Window.admissions a p.period (({} : Turnstile).after p actions).decisions ≤
          2 * p.limit) := by
  have hsound := sound_after p actions
  refine ⟨hsound.onRegistered, ?_, ?_⟩
  · intro later between earlier hlog hbetween
    have hsuffix : between ++ earlier <:+ (({} : Turnstile).after p actions).log :=
      ⟨later, hlog.symm⟩
    exact Nat.le_trans (countP_admits_le_sinceOpening hbetween earlier)
      (hsound.within _ hsuffix)
  · intro hperiod hwhole hearly a
    obtain ⟨w, hw⟩ := reckoned_after a hperiod hwhole hearly
    cases hcase : w with
    | none =>
        rw [hw.fresh hcase]
        exact Nat.zero_le _
    | some v => exact (hw.counted v hcase).total

end Runs

section Instances

/--
A window is used up and over. The second check has found its counter when a sweep takes it; the
third check makes another one and uses it up before the second one gets the lock, which starts over.
-/
def overtaken : List Action :=
  allOf 1 ++ [.advance 2000000000, .find 2, .sweep 2000000000] ++ allOf 3 ++
    [.lock 2, .confirm 2] ++ allOf 2

/-- The second check is denied on the counter of the third. -/
theorem counts_on_registered_overtaken :
    (({} : Turnstile).after oncePerSecond overtaken).phase 2 = .done ⟨false, 0, 1000000000⟩ ∧
    Window.admissions 2000000000 oncePerSecond.period
      (({} : Turnstile).after oncePerSecond overtaken).decisions ≤ 2 * oncePerSecond.limit := by
  have hwhole : ∀ t, .advance t ∈ overtaken → t % 1000 = 0 := by
    intro t ht
    have hat : t = 2000000000 := by simpa [overtaken, allOf] using ht
    rw [hat]
  have hlog : (({} : Turnstile).after oncePerSecond overtaken).log =
      [.decided 2000000000 1 (some 1) ⟨false, 0, 1000000000⟩,
        .decided 2000000000 1 (some 1) ⟨true, 0, 1000000000⟩, .opened 2000000000,
        .decided 0 0 (some 0) ⟨true, 0, 1000000000⟩, .opened 0] := by
    decide +kernel
  have hearly : ∀ t, .opened t ∈ (({} : Turnstile).after oncePerSecond overtaken).log →
      EndsEarly oncePerSecond t := by
    intro t ht
    have hat : t = 2000000000 ∨ t = 0 := by simpa [hlog] using ht
    rcases hat with rfl | rfl <;> decide
  exact ⟨by decide +kernel,
    (counts_on_registered oncePerSecond overtaken).2.2 (by decide) hwhole hearly 2000000000⟩

/-- Once in a period that is as long as a round of the clock that sweeps read. -/
def oncePerRound : Policy :=
  { oncePerSecond with
    period := 18446744073709551616000
    periodLabel := "18446744073709s 551616us" }

/-- Sweeps take such a window as soon as it is open, and the quota is there every time. -/
theorem not_bounded_across_rounds :
    Window.admissions 0 oncePerRound.period
      (({} : Turnstile).after oncePerRound
        (allOf 1 ++ [.sweep 0] ++ allOf 2 ++ [.sweep 0] ++ allOf 3)).decisions =
      3 * oncePerRound.limit := by
  decide +kernel

end Instances

end Turnstile
end RateLimit
end ApiGateway
