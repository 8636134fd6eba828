import ApiGateway.Proofs.Qos.Switchboard

/-!
# The breakers of a switchboard

Of all that happens at a switchboard, each breaker sees the calls that ask it and their outcomes.
Main statement: `watch_after`, by which a run of the switchboard is a run of each of its breakers.
What holds of all runs of a breaker therefore holds of the breakers of a switchboard.
-/

namespace ApiGateway

open Breaker (Note Watch)

namespace Qos
namespace Switchboard

section Watches

variable {α : Type}
variable {w : Switchboard α}

/-- If there is the breaker `i`, it has these settings. -/
def SetTo (w : Switchboard α) (i : Nat) (settings : BreakerSettings) : Prop :=
  ∀ b, w.breakers.breakers[i]? = some b → b.settings = settings

variable {i : Nat}
variable {settings : BreakerSettings}

theorem pending?_watch (w : Switchboard α) (i : Nat) (settings : BreakerSettings) (call : Nat) :
    (w.watch i settings).pending? call = probeAt i (w.guard? call) := by
  unfold Watch.pending? watch guard?
  rw [List.getElem?_map]
  cases w.guards[call]? <;> rfl

/-- The settings of a breaker are those of the call that makes it, and never change. -/
theorem settings_meet
    (hw : w.breakers.Sound)
    (e : Event α)
    (i : Nat) :
    (w.meet e).breakers.breakers[i]?.map (·.settings) =
        w.breakers.breakers[i]?.map (·.settings) ∨
      w.breakers.breakers[i]? = none ∧
        ∃ p scope now,
          e = .start (some p) scope now ∧
          (w.meet e).breakers.breakers[i]?.map (·.settings) = some p.breaker := by
  cases met hw e with
  | begun p scope now j b hevent hnext _ _ _ =>
      rw [hnext.breakers]
      by_cases hji : j = i
      · subst hji
        rw [if_pos rfl, Option.map_some, Breaker.settings_check, ← hnext.breaker]
        cases w.breakers.breakers[j]? with
        | some b' => exact Or.inl rfl
        | none => exact Or.inr ⟨rfl, p, scope, now, hevent, rfl⟩
      · rw [if_neg hji]
        exact Or.inl rfl
  | unguarded scope now hevent =>
      subst hevent
      exact Or.inl rfl
  | ended call succeeded now _ hnext _ _ _ =>
      refine Or.inl ?_
      rw [hnext.getElem?_breakers]
      cases probeAt i (w.guard? call) with
      | none => rfl
      | some probe => cases w.breakers.breakers[i]? <;> simp
  | cleared hevent =>
      subst hevent
      exact Or.inl rfl
  | idle hnext _ _ _ =>
      rw [hnext]
      exact Or.inl rfl

theorem SetTo.of_meet
    (hw : w.breakers.Sound)
    {e : Event α}
    (h : (w.meet e).SetTo i settings) :
    w.SetTo i settings := by
  intro b hb
  rcases settings_meet hw e i with hsame | ⟨hnone, _⟩
  · rw [hb, Option.map_some, Option.map_eq_some_iff] at hsame
    obtain ⟨b', hb', hsettings⟩ := hsame
    rw [← hsettings, h b' hb']
  · rw [hb] at hnone
    cases hnone

theorem SetTo.of_after
    (hw : w.Sound)
    {events : List (Event α)}
    (h : (w.after events).SetTo i settings) :
    w.SetTo i settings := by
  induction events generalizing w with
  | nil => exact h
  | cons e es ih => exact SetTo.of_meet hw.scopes (ih (hw.meet e) h)

theorem setTo_of_getElem?
    {b : Breaker}
    (hb : w.breakers.breakers[i]? = some b) :
    w.SetTo i b.settings := by
  intro b' hb'
  rw [hb] at hb'
  cases hb'
  rfl

theorem setTo_after
    (hw : w.Sound)
    {b : Breaker}
    (hb : w.breakers.breakers[i]? = some b)
    (events : List (Event α)) :
    (w.after events).SetTo i b.settings := by
  intro b' hb'
  exact (SetTo.of_after hw (setTo_of_getElem? hb') b hb).symm

/-- What holds of the settings of all policies holds of the settings of all breakers. -/
theorem settings_after
    {P : BreakerSettings → Prop}
    (hw : w.Sound)
    {events : List (Event α)}
    (hevents : ∀ e, e ∈ events → e.Under P)
    (h : ∀ (i : Nat) (b : Breaker), w.breakers.breakers[i]? = some b → P b.settings) :
    ∀ (i : Nat) (b : Breaker), (w.after events).breakers.breakers[i]? = some b →
      P b.settings := by
  induction events generalizing w with
  | nil => exact h
  | cons e es ih =>
      refine ih (hw.meet e) (fun e' he' => hevents e' (List.mem_cons_of_mem e he')) ?_
      intro i b hb
      rcases settings_meet hw.scopes e i with hsame | ⟨_, p, scope, now, hevent, hnew⟩
      · rw [hb, Option.map_some, eq_comm, Option.map_eq_some_iff] at hsame
        obtain ⟨b', hb', hsettings⟩ := hsame
        rw [← hsettings]
        exact h i b' hb'
      · rw [hb, Option.map_some] at hnew
        have hunder := hevents e List.mem_cons_self
        rw [hevent] at hunder
        rw [Option.some.inj hnew]
        exact hunder

theorem ledger_settled (i call : Nat) (guard : Option Guard) (succeeded : Bool) (now : Instant) :
    ledger i (guard.toList.map fun g => (g.breaker, .settled call g.probe succeeded now)) =
      (probeAt i guard).toList.map fun probe => .settled call probe succeeded now := by
  cases guard with
  | none => rfl
  | some g => by_cases hi : g.breaker = i <;> simp [ledger, hi]

theorem ledger_append (i : Nat) (h h' : List (Nat × Note)) :
    ledger i (h ++ h') = ledger i h ++ ledger i h' :=
  List.filterMap_append

/-- The calls that pass are those that the breaker lets pass. -/
theorem admission?_notes
    (hw : w.breakers.Sound)
    (e : Event α)
    (i : Nat) :
    ((w.admission? e).toList.filter fun g => g.breaker = i).map (·.probe) =
      Breaker.admissions (ledger i (w.notes e)) := by
  cases met hw e with
  | begun p scope now j b _ _ hadmission hnotes _ =>
      rw [hadmission, hnotes]
      by_cases hji : j = i <;> cases htrial : (b.check now).2.trial? <;>
        simp [ledger, Breaker.admissions, Breaker.Note.admission?, hji, htrial]
  | unguarded scope now hevent =>
      subst hevent
      rfl
  | ended call succeeded now _ _ hadmission hnotes _ =>
      rw [hadmission, hnotes, ledger_settled]
      cases probeAt i (w.guard? call) <;> rfl
  | cleared hevent =>
      subst hevent
      rfl
  | idle _ hadmission hnotes _ =>
      rw [hadmission, hnotes]
      rfl

theorem admissions_history
    (hw : w.Sound)
    (events : List (Event α))
    (i : Nat) :
    (w.admissions i events).map (·.probe) =
      Breaker.admissions (ledger i (w.history events)) := by
  induction events generalizing w with
  | nil => rfl
  | cons e es ih =>
      rw [history, ledger_append, Watch.admissions_append, ← admission?_notes hw.scopes,
        ← ih (hw.meet e), ← List.map_append]
      rfl

theorem breaker_watch
    {b : Breaker}
    (h : w.breakers.breakers[i]? = some b)
    (settings : BreakerSettings) :
    (w.watch i settings).breaker = b := by
  unfold watch
  rw [h]
  rfl

section Steps

variable {w' : Switchboard α}
variable {p : Policy}
variable {scope : String}
variable {now : Instant}
variable {j : Nat}
variable {b : Breaker}

/-- A breaker that is made for a call has the settings with which it is watched from then on. -/
theorem Begun.breaker_watch
    (h : Begun w w' p scope now j b)
    (hset : w'.SetTo j settings) :
    (w.watch j settings).breaker = b := by
  have hbreaker := h.breakers j
  rw [if_pos rfl] at hbreaker
  have hsettings := hset _ hbreaker
  rw [Breaker.settings_check, ← h.breaker] at hsettings
  rw [← h.breaker]
  unfold watch
  cases hj : w.breakers.breakers[j]? with
  | some b' => rfl
  | none =>
      rw [hj] at hsettings
      exact congrArg Watch.breaker (congrArg Watch.new hsettings.symm)

theorem Begun.watch_self
    (h : Begun w w' p scope now j b)
    (hset : w'.SetTo j settings) :
    w'.watch j settings = (w.watch j settings).meet (.ask now) := by
  have hbreaker := h.breakers j
  rw [if_pos rfl] at hbreaker
  have hbefore : w.breakers.breakers[j]?.getD { settings } = b := h.breaker_watch hset
  unfold watch Watch.meet Watch.entering
  rw [hbreaker, h.guards, List.map_append, h.entered]
  simp only [hbefore, true_and]
  cases (b.check now).2.trial? <;> simp

/-- Other breakers do not see the call. -/
theorem Begun.watch_of_ne
    (h : Begun w w' p scope now j b)
    (hji : j ≠ i)
    (settings : BreakerSettings) :
    w'.watch i settings = (w.watch i settings).meet .elsewhere := by
  have hbreaker := h.breakers i
  rw [if_neg hji] at hbreaker
  unfold Watch.meet watch
  rw [hbreaker, h.guards, List.map_append, h.entered, if_neg fun h => hji h.1]
  cases (b.check now).2.trial? <;> simp [hji]

theorem Ended.watch_settle
    (hw : w.Sound)
    {call : Nat}
    {succeeded : Bool}
    (h : Ended w w' call succeeded now)
    (i : Nat)
    (settings : BreakerSettings) :
    w'.watch i settings = (w.watch i settings).meet (.settle call succeeded now) := by
  have hbreaker := h.getElem?_breakers i
  have hpending := w.pending?_watch i settings call
  unfold Watch.meet
  cases hprobe : probeAt i (w.guard? call) with
  | some probe =>
      obtain ⟨g, hg, rfl, _⟩ := probeAt_eq_some_iff.1 hprobe
      have hlt := hw.guards g (mem_guards_of_guard? hg)
      rw [hprobe] at hpending
      simp only [hprobe, Array.getElem?_eq_getElem hlt] at hbreaker
      simp only [hpending]
      unfold watch
      rw [hbreaker, h.guards, h.entered, List.map_set, Array.getElem?_eq_getElem hlt]
      rfl
  | none =>
      rw [hprobe] at hpending
      simp only [hprobe] at hbreaker
      simp only [hpending]
      have hcalls := Watch.set_none_of_join_eq_none hpending
      unfold watch at hcalls ⊢
      rw [hbreaker, h.guards, h.entered, List.map_set]
      exact congrArg (Watch.mk _ · _) hcalls

end Steps

/-- A breaker with its calls changes as its watch does. -/
theorem watch_meet
    (hw : w.Sound)
    {e : Event α}
    (h : (w.meet e).SetTo i settings) :
    (w.meet e).watch i settings = (w.watch i settings).after (w.acts i e) ∧
      ledger i (w.notes e) = (w.watch i settings).history (w.acts i e) := by
  cases met hw.scopes e with
  | begun p scope now j b _ hnext _ hnotes hacts =>
      rw [hnotes, hacts]
      by_cases hji : j = i
      · subst hji
        rw [if_pos rfl, Watch.after_singleton, Watch.history_singleton]
        refine ⟨hnext.watch_self h, ?_⟩
        have hbefore : w.breakers.breakers[j]?.getD { settings } = b := hnext.breaker_watch h
        simp [ledger, Watch.notes, watch, hbefore]
      · rw [if_neg hji, Watch.after_singleton, Watch.history_singleton]
        refine ⟨hnext.watch_of_ne hji settings, ?_⟩
        simp [ledger, hji, Watch.notes]
  | unguarded scope now hevent =>
      subst hevent
      refine ⟨?_, rfl⟩
      rw [meet_unguarded]
      simp [watch, acts, Watch.after, Watch.meet, guards, Call.guard?]
  | ended call succeeded now _ hnext _ hnotes hacts =>
      rw [hnotes, hacts, Watch.after_singleton, Watch.history_singleton]
      refine ⟨hnext.watch_settle hw i settings, ?_⟩
      rw [ledger_settled]
      simp only [Watch.notes, pending?_watch]
      cases probeAt i (w.guard? call) <;> rfl
  | cleared hevent =>
      subst hevent
      exact ⟨rfl, rfl⟩
  | idle hnext _ hnotes hacts =>
      rw [hnext, hnotes, hacts]
      exact ⟨rfl, rfl⟩

/-- A run of a switchboard is a run of each of its breakers. -/
theorem watch_after
    (hw : w.Sound)
    {events : List (Event α)}
    (h : (w.after events).SetTo i settings) :
    (w.after events).watch i settings = (w.watch i settings).after (w.actsAlong i events) ∧
      ledger i (w.history events) = (w.watch i settings).history (w.actsAlong i events) := by
  induction events generalizing w with
  | nil => exact ⟨rfl, rfl⟩
  | cons e es ih =>
      -- the breaker has these settings at the end, so it has had them all along
      obtain ⟨hwatch, hnotes⟩ := watch_meet hw (SetTo.of_after (hw.meet e) h)
      obtain ⟨hafter, hhistory⟩ := ih (hw.meet e) h
      rw [hwatch] at hafter hhistory
      show ((w.meet e).after es).watch i settings = _ ∧
        ledger i (w.notes e ++ (w.meet e).history es) = _
      rw [ledger_append, hafter, hhistory, hnotes, ← Watch.after_append, ← Watch.history_append]
      exact ⟨rfl, rfl⟩

/-- A breaker that there is, as it is watched. -/
theorem getElem?_eq_watch
    (h : i < w.breakers.breakers.size) :
    w.breakers.breakers[i]? = some (w.watch i settings).breaker := by
  unfold watch
  rw [Array.getElem?_eq_getElem h]
  rfl

/-- A breaker and its calls are tidy in all runs. -/
theorem tidy_watch
    {events : List (Event α)}
    (h : (run events).SetTo i settings) :
    ((run events).watch i settings).Tidy := by
  unfold run at h ⊢
  rw [(watch_after sound_new h).1]
  exact (Watch.tidy_new settings).after _

/-- A scope that is not forgotten keeps its breaker. -/
theorem scopes_meet
    (hw : w.breakers.Sound)
    {e : Event α}
    (he : e ≠ .clear)
    {scope : String}
    (h : w.breakers.scopes[scope]? = some i) :
    (w.meet e).breakers.scopes[scope]? = some i := by
  cases met hw e with
  | begun p scope' now j b hevent hnext _ _ _ =>
      rw [hnext.scopes]
      split
      · rename_i hscope
        have hcharge := hnext.inCharge
        rw [hscope, h] at hcharge
        rcases hcharge with hj | ⟨hnone, _⟩
        · exact hj.symm
        · cases hnone
      · exact h
  | unguarded scope' now hevent =>
      subst hevent
      exact h
  | ended call succeeded now _ hnext _ _ _ =>
      rw [hnext.breakers, scopes_leave]
      exact h
  | cleared hevent => exact absurd hevent he
  | idle hnext _ _ _ =>
      rw [hnext]
      exact h

/-- A scope gets its breaker when it is new. -/
theorem scopes_of_meet
    (hw : w.breakers.Sound)
    {e : Event α}
    {scope : String}
    (h : (w.meet e).breakers.scopes[scope]? = some i) :
    w.breakers.scopes[scope]? = some i ∨ w.breakers.breakers[i]? = none := by
  cases met hw e with
  | begun p scope' now j b hevent hnext _ _ _ =>
      rw [hnext.scopes] at h
      split at h
      · rename_i hscope
        cases h
        rcases hnext.inCharge with hj | ⟨_, hj⟩
        · exact Or.inl (hscope ▸ hj)
        · exact Or.inr (Array.getElem?_eq_none (Nat.le_of_eq hj))
      · exact Or.inl h
  | unguarded scope' now hevent =>
      subst hevent
      exact Or.inl h
  | ended call succeeded now _ hnext _ _ _ =>
      rw [hnext.breakers, scopes_leave] at h
      exact Or.inl h
  | cleared hevent =>
      subst hevent
      simp [meet, BreakerRegistry.clear] at h
  | idle hnext _ _ _ =>
      rw [hnext] at h
      exact Or.inl h

theorem scopes_after
    (hw : w.Sound)
    {events : List (Event α)}
    (hevents : ∀ e, e ∈ events → e ≠ .clear)
    {scope : String}
    (h : w.breakers.scopes[scope]? = some i) :
    (w.after events).breakers.scopes[scope]? = some i := by
  induction events generalizing w with
  | nil => exact h
  | cons e es ih =>
      have hnext := scopes_meet hw.scopes (hevents e List.mem_cons_self) h
      exact ih (hw.meet e) (fun e' he' => hevents e' (List.mem_cons_of_mem e he')) hnext

/-- The breaker of a scope is asked by the calls of this scope only. -/
theorem ask_mem_acts
    (hw : w.breakers.Sound)
    {scope : String}
    (h : w.breakers.scopes[scope]? = some i)
    {e : Event α}
    {now : Instant}
    (hask : Watch.Event.ask now ∈ w.acts i e) :
    ∃ p, e = .start (some p) scope now := by
  cases met hw e with
  | begun p scope' now' j b hevent hnext _ _ hacts =>
      rw [hacts] at hask
      split at hask
      · rename_i hji
        subst hji
        cases List.mem_singleton.1 hask
        rcases hnext.inCharge with hj | ⟨_, hj⟩
        · exact ⟨p, hevent.trans (by rw [hw.apart hj h])⟩
        · exact absurd (hw.there h) (by omega)
      · simp at hask
  | unguarded scope' now' hevent =>
      subst hevent
      simp [acts] at hask
  | ended call succeeded now' _ _ _ _ hacts =>
      rw [hacts] at hask
      simp at hask
  | cleared hevent =>
      subst hevent
      cases hask
  | idle _ _ _ hacts =>
      rw [hacts] at hask
      cases hask

theorem ask_mem_actsAlong
    (hw : w.Sound)
    {scope : String}
    (h : w.breakers.scopes[scope]? = some i)
    {events : List (Event α)}
    (hevents : ∀ e, e ∈ events → e ≠ .clear)
    {now : Instant}
    (hask : Watch.Event.ask now ∈ w.actsAlong i events) :
    ∃ p, .start (some p) scope now ∈ events := by
  induction events generalizing w with
  | nil => cases hask
  | cons e es ih =>
      rcases List.mem_append.1 hask with hfirst | hrest
      · obtain ⟨p, rfl⟩ := ask_mem_acts hw.scopes h hfirst
        exact ⟨p, List.mem_cons_self⟩
      · have hnext := scopes_meet hw.scopes (hevents e List.mem_cons_self) h
        obtain ⟨p, hp⟩ :=
          ih (hw.meet e) hnext (fun e' he' => hevents e' (List.mem_cons_of_mem e he')) hrest
        exact ⟨p, List.mem_cons_of_mem e hp⟩

end Watches

end Switchboard
end Qos
end ApiGateway
