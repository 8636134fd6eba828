import ApiGateway.Proofs.Breaker.FailureWindow

/-!
# What opens a closed breaker

A closed breaker has a count and the start of a window, and no memory of the failures themselves.
`Counts` ties the two to the outcomes that were recorded: behind every count there are as many
failures at the end of the history, during which the breaker was closed and no success was recorded,
and none of them is later than the window that begins with the first one.

The histories are all lists of notes, in which any outcome may follow any other one, whether its
call was let pass or not; by `Watch.breaker_after` the runs of calls are among them. The instant of
a failure is read before the breaker is taken, so failures may be recorded in another order than
that of their instants.

Main statement: `opened_by_failures`, that a closed breaker is opened by a failure only, and by one
that completes the threshold. Its failures lie within one window up to the last one where they are
recorded in their order, and need not otherwise (`not_opened_within_window`).
-/

namespace ApiGateway

def BreakerState.isClosed : BreakerState → Bool
  | .closed _ _ => true
  | _ => false

theorem BreakerState.exists_of_isClosed {s : BreakerState} (h : s.isClosed = true) :
    ∃ failures windowStart, s = .closed failures windowStart := by
  cases s with
  | closed failures windowStart => exact ⟨failures, windowStart, rfl⟩
  | opened retryAt => cases h
  | halfOpen trials => cases h

namespace Breaker

/-- The breaker after notes, from the beginning. -/
def heard (settings : BreakerSettings) (notes : List Note) : Breaker :=
  notes.foldl hear { settings }

/-- Notes at the end of others, during which the breaker was closed and no success was recorded. -/
structure Stretch (settings : BreakerSettings) (notes recent : List Note) : Prop where
  closed : ∃ before,
    notes = before ++ recent ∧
    ∀ front, front <+: recent → (heard settings (before ++ front)).state.isClosed = true
  unbroken : ∀ n, n ∈ recent → n.succeeds = false

/-- None of the instants is later than the window that begins with the first one. -/
def InWindow (settings : BreakerSettings) (ts : List Instant) : Prop :=
  ∀ first, ts.head? = some first → ∀ t, t ∈ ts → t - first ≤ settings.failureWindow

/-- What a closed breaker counts: the failures of a stretch of notes up to now. -/
structure Counts (settings : BreakerSettings) (notes recent : List Note) (count : Nat)
    (windowStart : Option Instant) : Prop where
  stretch : Stretch settings notes recent
  length : (failures recent).length = count
  head : (failures recent).head? = windowStart
  window : InWindow settings (failures recent)

section Histories

variable {settings : BreakerSettings}
variable {notes recent : List Note}
variable {n : Note}

theorem heard_concat (settings : BreakerSettings) (notes : List Note) (n : Note) :
    heard settings (notes ++ [n]) = hear (heard settings notes) n := by
  simp [heard]

@[simp] theorem settings_hear (b : Breaker) (n : Note) : (hear b n).settings = b.settings := by
  cases n with
  | asked call answer now => exact b.settings_check now
  | settled call probe succeeded now => exact b.settings_record probe succeeded now

theorem settings_foldl_hear (b : Breaker) (notes : List Note) :
    (notes.foldl hear b).settings = b.settings := by
  induction notes generalizing b with
  | nil => rfl
  | cons n notes ih => exact (ih (hear b n)).trans (settings_hear b n)

@[simp] theorem settings_heard (settings : BreakerSettings) (notes : List Note) :
    (heard settings notes).settings = settings :=
  settings_foldl_hear _ notes

theorem failures_concat_of_failed
    (recent : List Note)
    (call : Nat)
    (probe : Bool)
    (now : Instant) :
    failures (recent ++ [.settled call probe false now]) = failures recent ++ [now] := by
  simp [failures, Note.failure?]

theorem failures_concat_of_asked
    (recent : List Note)
    (call : Nat)
    (answer : BreakerCheck)
    (now : Instant) :
    failures (recent ++ [.asked call answer now]) = failures recent := by
  simp [failures, Note.failure?]

/-- A closed breaker begins a stretch. -/
theorem Stretch.begin (h : (heard settings notes).state.isClosed = true) :
    Stretch settings notes [] := by
  refine ⟨⟨notes, (List.append_nil notes).symm, ?_⟩, nofun⟩
  intro front hfront
  rw [List.prefix_nil.1 hfront, List.append_nil]
  exact h

/-- A stretch goes on with a note that is no success and leaves the breaker closed. -/
theorem Stretch.concat
    (h : Stretch settings notes recent)
    (hclosed : (heard settings (notes ++ [n])).state.isClosed = true)
    (hn : n.succeeds = false) :
    Stretch settings (notes ++ [n]) (recent ++ [n]) := by
  obtain ⟨before, rfl, hprefix⟩ := h.closed
  refine ⟨⟨before, List.append_assoc _ _ _, ?_⟩, ?_⟩
  · intro front hfront
    rcases List.prefix_concat_iff.1 hfront with rfl | hfront
    · rw [← List.append_assoc]
      exact hclosed
    · exact hprefix front hfront
  · intro m hm
    rcases List.mem_append.1 hm with hm | hm
    · exact h.unbroken m hm
    · rw [List.mem_singleton.1 hm]
      exact hn

/-- One instant makes up a window. -/
theorem inWindow_singleton (t : Instant) : InWindow settings [t] := by
  intro first hfirst u hu
  cases hfirst
  rw [List.mem_singleton.1 hu, Nat.sub_self]
  exact Nat.zero_le _

theorem InWindow.concat
    {ts : List Instant}
    (h : InWindow settings ts)
    {start t : Instant}
    (hstart : ts.head? = some start)
    (ht : t - start ≤ settings.failureWindow) :
    InWindow settings (ts ++ [t]) := by
  intro first hfirst u hu
  rw [List.head?_append, hstart] at hfirst
  cases hfirst
  rcases List.mem_append.1 hu with hu | hu
  · exact h start hstart u hu
  · rw [List.mem_singleton.1 hu]
    exact ht

/--
A failure that is counted: it goes on with the failures counted so far, or begins anew where they
are over.
-/
theorem Counts.exists_with_failure
    {count : Nat}
    {windowStart : Option Instant}
    (h : Counts settings notes recent count windowStart)
    (hclosed : (heard settings notes).state.isClosed = true)
    (now : Instant) :
    let counted := (heard settings notes).countFailure count windowStart now
    ∃ recent',
      Stretch settings notes recent' ∧
      (failures recent' ++ [now]).length = counted.1 ∧
      (failures recent' ++ [now]).head? = some counted.2 ∧
      InWindow settings (failures recent' ++ [now]) := by
  intro counted
  have hanew : counted = (1, now) → ∃ recent',
      Stretch settings notes recent' ∧
      (failures recent' ++ [now]).length = counted.1 ∧
      (failures recent' ++ [now]).head? = some counted.2 ∧
      InWindow settings (failures recent' ++ [now]) := by
    intro hcounted
    rw [hcounted]
    exact ⟨[], .begin hclosed, rfl, rfl, inWindow_singleton now⟩
  cases hstart : windowStart with
  | none => exact hanew (by simp [counted, countFailure, hstart])
  | some start =>
      by_cases hover : now - start ≤ settings.failureWindow
      · have hcounted : counted = (count + 1, start) := by
          simp [counted, countFailure, hstart, hover]
        have hhead := h.head.trans hstart
        rw [hcounted]
        refine ⟨recent, h.stretch, ?_, ?_, h.window.concat hhead hover⟩
        · rw [List.length_append, h.length]
          rfl
        · rw [List.head?_append, hhead]
          rfl
      · exact hanew (by simp [counted, countFailure, hstart, hover])

/-- The counts of a breaker that has just been closed or reset. -/
theorem Counts.of_reset (h : (heard settings notes).state = .closed 0 none) :
    Counts settings notes [] 0 none :=
  ⟨.begin (by rw [h]; rfl), rfl, rfl, nofun⟩

/-- Behind what a closed breaker counts there are the failures of a stretch. -/
def Counted (settings : BreakerSettings) (notes : List Note) : Prop :=
  ∀ count windowStart, (heard settings notes).state = .closed count windowStart →
    ∃ recent, Counts settings notes recent count windowStart

namespace Counted

theorem nil (settings : BreakerSettings) : Counted settings [] := by
  intro count windowStart hstate
  cases hstate
  exact ⟨[], .of_reset rfl⟩

theorem asked
    (h : Counted settings notes)
    (call : Nat)
    (answer : BreakerCheck)
    (now : Instant) :
    Counted settings (notes ++ [.asked call answer now]) := by
  intro count windowStart hstate
  have hheard := heard_concat settings notes (.asked call answer now)
  cases (heard settings notes).checked_check now with
  | passed hbefore hr =>
      -- the breaker stays as it is, and so does what it counts
      have hsame : heard settings (notes ++ [.asked call answer now]) = heard settings notes := by
        rw [hheard, hear, hr]
      rw [hsame] at hstate
      obtain ⟨recent, hcounts⟩ := h count windowStart hstate
      refine ⟨recent ++ [.asked call answer now], hcounts.stretch.concat ?_ rfl, ?_, ?_, ?_⟩
      · rw [hsame, hstate]
        rfl
      all_goals rw [failures_concat_of_asked]
      · exact hcounts.length
      · exact hcounts.head
      · exact hcounts.window
  | refused hbefore _ hr => simp [hheard, hear, hr, hbefore] at hstate
  | entered _ _ hr => simp [hheard, hear, hr] at hstate
  | tried _ _ hr => simp [hheard, hear, hr] at hstate
  | full hbefore _ hr => simp [hheard, hear, hr, hbefore] at hstate

theorem settled
    (h : Counted settings notes)
    (call : Nat)
    (probe succeeded : Bool)
    (now : Instant) :
    Counted settings (notes ++ [.settled call probe succeeded now]) := by
  intro count windowStart hstate
  have hheard := heard_concat settings notes (.settled call probe succeeded now)
  rw [hear] at hheard
  cases (heard settings notes).recorded_record probe succeeded now with
  | reset _ _ hr | recovered _ _ _ hr =>
      rw [hr] at hheard
      rw [hheard] at hstate
      cases hstate
      exact ⟨[], .of_reset (by rw [hheard])⟩
  | @counted count₀ windowStart₀ hbefore hfailed _ hr =>
      subst hfailed
      obtain ⟨recent, hcounts⟩ := h count₀ windowStart₀ hbefore
      obtain ⟨recent', hstretch, hlength, hhead, hwindow⟩ :=
        hcounts.exists_with_failure (by rw [hbefore]; rfl) now
      rw [hr] at hheard
      rw [hheard] at hstate
      cases hstate
      refine ⟨recent' ++ [.settled call probe false now], hstretch.concat ?_ rfl, ?_, ?_, ?_⟩
      · rw [hheard]
        rfl
      all_goals rw [failures_concat_of_failed]
      · exact hlength
      · exact hhead
      · exact hwindow
  | opened _ _ _ hr => simp [hheard, hr, Breaker.opened] at hstate
  | reopened _ _ _ hr => simp [hheard, hr, Breaker.opened] at hstate
  | ignored hbefore _ hr => simp [hheard, hr, hbefore] at hstate
  | late hbefore hr => simp [hheard, hr, hbefore] at hstate

theorem append
    (h : Counted settings notes)
    (more : List Note) :
    Counted settings (notes ++ more) := by
  induction more generalizing notes with
  | nil =>
      rw [List.append_nil]
      exact h
  | cons n more ih =>
      rw [← List.singleton_append, ← List.append_assoc]
      cases n with
      | asked call answer now => exact ih (h.asked call answer now)
      | settled call probe succeeded now => exact ih (h.settled call probe succeeded now)

end Counted

/-- In all histories there are failures behind what a closed breaker counts. -/
theorem counted (settings : BreakerSettings) (notes : List Note) : Counted settings notes :=
  (Counted.nil settings).append notes

end Histories

/-- Failures in the order of their instants, none later than the window, lie a window apart. -/
theorem InWindow.le_of_pairwise
    {settings : BreakerSettings}
    {ts : List Instant}
    {last : Instant}
    (h : InWindow settings (ts ++ [last]))
    (horder : (ts ++ [last]).Pairwise (· ≤ ·))
    {t : Instant}
    (ht : t ∈ ts ++ [last]) :
    last ≤ t + settings.failureWindow ∧ t ≤ last := by
  have hlast : t ≤ last := by
    rcases List.mem_append.1 ht with ht | ht
    · exact (List.pairwise_append.1 horder).2.2 t ht last List.mem_cons_self
    · exact Nat.le_of_eq (List.mem_singleton.1 ht)
  refine ⟨?_, hlast⟩
  cases hts : ts ++ [last] with
  | nil => exact absurd hts (by simp)
  | cons first rest =>
      have hfirst : first ≤ t := by
        rw [hts] at horder ht
        rcases List.mem_cons.1 ht with rfl | ht
        · exact Nat.le_refl _
        · exact (List.pairwise_cons.1 horder).1 t ht
      have hspan : last - first ≤ settings.failureWindow :=
        h first (by rw [hts]; rfl) last (List.mem_append_right _ List.mem_cons_self)
      calc last ≤ settings.failureWindow + first := Nat.sub_le_iff_le_add.1 hspan
        _ ≤ settings.failureWindow + t := Nat.add_le_add_left hfirst _
        _ = t + settings.failureWindow := Nat.add_comm _ _

/-- What a failure says of a breaker is whether it has just opened. -/
theorem recordFailure_opened_iff (b : Breaker) (probe : Bool) (now : Instant) :
    (b.recordFailure probe now).2 = true ↔
      b.state.isOpen = false ∧ (b.recordFailure probe now).1.state.isOpen = true := by
  unfold recordFailure
  cases hstate : b.state with
  | closed count windowStart =>
      dsimp only
      split <;> simp [BreakerState.isOpen, Breaker.opened]
  | opened retryAt => simp [hstate, BreakerState.isOpen]
  | halfOpen trials => cases probe <;> simp [hstate, BreakerState.isOpen, Breaker.opened]

/-- The last failure of a stretch that opens the breaker. -/
theorem exists_stretch_of_opened
    {settings : BreakerSettings}
    {notes : List Note}
    {n : Note}
    (hbefore : (heard settings notes).state.isClosed = true)
    (hafter : (heard settings (notes ++ [n])).state.isOpen = true) :
    ∃ call probe now recent,
      n = .settled call probe false now ∧
      Stretch settings notes recent ∧
      settings.failureThreshold ≤ (failures recent ++ [now]).length ∧
      InWindow settings (failures recent ++ [now]) := by
  obtain ⟨count, windowStart, hstate⟩ := BreakerState.exists_of_isClosed hbefore
  rw [heard_concat] at hafter
  cases n with
  | asked call answer now => simp [hear, check, hstate, BreakerState.isOpen] at hafter
  | settled call probe succeeded now =>
      rw [hear] at hafter
      cases (heard settings notes).recorded_record probe succeeded now with
      | @opened count₀ windowStart₀ hclosed hfailed henough _ =>
          subst hfailed
          obtain ⟨recent, hcounts⟩ := counted settings notes count₀ windowStart₀ hclosed
          obtain ⟨recent', hstretch, hlength, _, hwindow⟩ :=
            hcounts.exists_with_failure hbefore now
          refine ⟨call, probe, now, recent', rfl, hstretch, ?_, hwindow⟩
          rw [settings_heard] at henough
          exact Nat.le_trans henough (Nat.le_of_eq hlength.symm)
      | reset _ _ hr => simp [hr, BreakerState.isOpen] at hafter
      | counted _ _ _ hr => simp [hr, BreakerState.isOpen] at hafter
      | recovered hhalf _ _ _ => simp [hstate] at hhalf
      | reopened hhalf _ _ _ => simp [hstate] at hhalf
      | ignored hhalf _ _ => simp [hstate] at hhalf
      | late hopened _ => simp [hstate] at hopened

/--
A closed breaker is opened by a failure only, at the end of a stretch with as many failures as the
threshold: the breaker was closed all along, no success was recorded between them, and none of them
is later than the window that begins with the first one. So where failures are recorded in the order
of their instants, all of them are within one window up to the last one. And a failure tells that
it opened the breaker just when the breaker was not open and is open now.
-/
theorem opened_by_failures (settings : BreakerSettings) :
    (∀ (notes : List Note) (n : Note),
      (heard settings notes).state.isClosed = true →
      (heard settings (notes ++ [n])).state.isOpen = true →
      ∃ call probe now recent,
        n = .settled call probe false now ∧
        Stretch settings notes recent ∧
        settings.failureThreshold ≤ (failures (recent ++ [n])).length ∧
        InWindow settings (failures (recent ++ [n])) ∧
        ((failures (notes ++ [n])).Pairwise (· ≤ ·) →
          ∀ t, t ∈ failures (recent ++ [n]) →
            now ≤ t + settings.failureWindow ∧ t ≤ now)) ∧
    ∀ (b : Breaker) (probe : Bool) (now : Instant),
      (b.recordFailure probe now).2 = true ↔
        b.state.isOpen = false ∧ (b.recordFailure probe now).1.state.isOpen = true := by
  refine ⟨fun notes n hbefore hafter => ?_, recordFailure_opened_iff⟩
  obtain ⟨call, probe, now, recent, rfl, hstretch, hmany, hwindow⟩ :=
    exists_stretch_of_opened hbefore hafter
  refine ⟨call, probe, now, recent, rfl, hstretch, ?_⟩
  obtain ⟨before, rfl, _⟩ := hstretch.closed
  simp only [failures_concat_of_failed]
  refine ⟨hmany, hwindow, fun horder t ht => hwindow.le_of_pairwise ?_ ht⟩
  refine horder.sublist ?_
  unfold failures
  rw [List.filterMap_append, List.append_assoc]
  exact List.sublist_append_right _ _

section Reopening

/-- Two failures in ten open the breaker. -/
def twoInTen : BreakerSettings where
  failureThreshold := 2
  breakDuration := 5
  halfOpenTrials := 1
  failureWindow := 10

/--
A breaker that opens, closes with a trial, forgets a failure that is too old and another one before
a success, and opens again.
-/
def upsAndDowns : List Note :=
  [.settled 0 false false 0, .settled 1 false false 4, .asked 2 .probe 9, .settled 2 true true 9,
    .settled 3 false false 10, .settled 4 false false 30, .settled 5 false true 31,
    .settled 6 false false 32]

/-- A call that was let pass before all that fails late and opens the breaker. -/
theorem opened_by_failures_upsAndDowns :
    (heard twoInTen upsAndDowns).state = .closed 1 (some 32) ∧
    ∃ recent,
      Stretch twoInTen upsAndDowns recent ∧
      2 ≤ (failures (recent ++ [.settled 7 false false 40])).length ∧
      ∀ t, t ∈ failures (recent ++ [.settled 7 false false 40]) → 40 ≤ t + 10 ∧ t ≤ 40 := by
  refine ⟨by decide, ?_⟩
  obtain ⟨call, probe, now, recent, hn, hstretch, hmany, _, hspan⟩ :=
    (opened_by_failures twoInTen).1 upsAndDowns (.settled 7 false false 40) (by decide) (by decide)
  cases hn
  exact ⟨recent, hstretch, hmany, hspan (by decide)⟩

/--
A failure at 0 that is recorded after one at 20 opens the breaker, though no two failures lie within
one window up to it.
-/
theorem not_opened_within_window :
    ¬ ∀ (settings : BreakerSettings) (notes : List Note) (n : Note),
      (heard settings notes).state.isClosed = true →
      (heard settings (notes ++ [n])).state.isOpen = true →
      ∃ call probe now recent,
        n = .settled call probe false now ∧
        Stretch settings notes recent ∧
        settings.failureThreshold ≤
          (failures (recent ++ [n])).countP fun t =>
            decide (now ≤ t + settings.failureWindow ∧ t ≤ now) := by
  intro h
  obtain ⟨call, probe, now, recent, hn, hstretch, hmany⟩ :=
    h twoInTen [.settled 0 false false 20] (.settled 1 false false 0) (by decide) (by decide)
  cases hn
  obtain ⟨before, hsplit, _⟩ := hstretch.closed
  -- Either failure alone is too few, and the first one is later than the last.
  have hshort : recent = [] ∨ recent = [.settled 0 false false 20] := by
    cases before with
    | nil => exact .inr hsplit.symm
    | cons n before => exact .inl (List.append_eq_nil_iff.1 (List.cons.inj hsplit).2.symm).2
  revert hmany
  rcases hshort with rfl | rfl <;> decide

end Reopening

end Breaker
end ApiGateway
