import ApiGateway.Proofs.Breaker.Registry
import ApiGateway.Proofs.Breaker.Watch
import ApiGateway.Qos.Call

/-!
# Guarded calls side by side

A switchboard has the breakers and all guarded calls that were ever begun. At any time another call
may be begun, under any policy and scope; one that waits may get its answer, run out of time or be
given up by its caller; and all scopes may be forgotten. Instants are arbitrary: the clock of a
failure is read before the breaker is taken, so outcomes need not come in the order of their times.

Main statement: `met`, which says for each event what it does to the breakers and the calls.
-/

namespace ApiGateway

open Breaker (Note Watch)

/-- A breaker opens after some failure, and not before one, and lets some trial pass. -/
def BreakerSettings.Usable (settings : BreakerSettings) : Prop :=
  1 ≤ settings.failureThreshold ∧ 1 ≤ settings.halfOpenTrials

namespace Qos

/-- Whatever is configured, the breakers are usable. -/
theorem Policy.usable_ofConfig (c : Config.Qos) : (Policy.ofConfig c).breaker.Usable :=
  ⟨Nat.le_max_left 1 _, Nat.le_max_left 1 _⟩

section Guards

variable {α : Type}
variable (r : BreakerRegistry)

/-- A call under a policy asks the breaker of its scope. -/
theorem enter_some (p : Policy) (scope : String) (now : Instant) :
    enter r (some p) scope now =
      let next := r.getOrCreate scope p.breaker
      let asked := next.1.check next.2 now
      (asked.1,
        match asked.2.trial? with
        | some probe => .ok (some ⟨next.2, probe, now + p.timeout⟩)
        | none => .error (.circuitOpen scope)) := by
  unfold enter
  dsimp only
  split <;> rename_i h <;> rw [h] <;> rfl

/-- A breaker takes the outcome of a call if it let the call pass. -/
theorem getElem?_leave (g : Guard) (succeeded : Bool) (now : Instant) (j : Nat) :
    (leave r (some g) succeeded now).1.breakers[j]? =
      if g.breaker = j then r.breakers[j]?.map (·.record g.probe succeeded now)
      else r.breakers[j]? := by
  cases succeeded with
  | true => exact r.getElem?_recordSuccess g.breaker g.probe j
  | false => exact r.getElem?_recordFailure g.breaker g.probe now j

theorem scopes_leave (guard : Option Guard) (succeeded : Bool) (now : Instant) :
    (leave r guard succeeded now).1.scopes = r.scopes := by
  unfold leave
  split
  · rfl
  · split
    · rfl
    · unfold BreakerRegistry.recordFailure
      split <;> rfl

theorem size_leave (guard : Option Guard) (succeeded : Bool) (now : Instant) :
    (leave r guard succeeded now).1.breakers.size = r.breakers.size := by
  unfold leave
  split
  · rfl
  · split
    · exact Array.size_modify
    · unfold BreakerRegistry.recordFailure
      split
      · exact Array.size_setIfInBounds
      · rfl

namespace Call

/-- The guard under which a call waits. -/
def guard? : Call α → Option Guard
  | waiting guard => guard
  | ended _ => none

theorem start_some (p : Policy) (scope : String) (now : Instant) :
    (start r (some p) scope now : BreakerRegistry × Call α) =
      let next := r.getOrCreate scope p.breaker
      let asked := next.1.check next.2 now
      (asked.1,
        match asked.2.trial? with
        | some probe => waiting (some ⟨next.2, probe, now + p.timeout⟩)
        | none => ended (.error (.circuitOpen scope))) := by
  unfold start
  rw [enter_some]
  dsimp only
  split <;> rename_i h <;> split at h <;> cases h <;> rfl

theorem finish_eq (now : Instant) (c : Call α) (result : Except GatewayError α) :
    (c.finish now r result).1 = (leave r c.guard? result.isOk now).1 ∧
      (c.finish now r result).2.guard? = none := by
  cases c <;> exact ⟨rfl, rfl⟩

end Call

end Guards

/-- The breakers and all calls that were ever begun. -/
structure Switchboard (α : Type) where
  breakers : BreakerRegistry := {}
  /-- A call that was given up is gone, but its place is kept. -/
  calls : List (Option (Call α)) := []
  /-- The call with which each breaker became half-open the last time. -/
  entered : Nat → Nat := fun _ => 0

/-- Whether a call is a trial, if it waits under a guard of a breaker. -/
def probeAt (i : Nat) (guard : Option Guard) : Option Bool :=
  (guard.filter fun g => g.breaker = i).map (·.probe)

@[simp] theorem probeAt_none (i : Nat) : probeAt i none = none :=
  rfl

@[simp] theorem probeAt_some (i : Nat) (g : Guard) :
    probeAt i (some g) = if g.breaker = i then some g.probe else none := by
  by_cases h : g.breaker = i <;> simp [probeAt, Option.filter, h]

theorem probeAt_eq_some_iff {i : Nat} {guard : Option Guard} {probe : Bool} :
    probeAt i guard = some probe ↔
      ∃ g, guard = some g ∧ g.breaker = i ∧ g.probe = probe := by
  cases guard with
  | none => simp
  | some g => simp

namespace Switchboard

/-- What happens at a switchboard. -/
inductive Event (α : Type)
  | start (policy : Option Policy) (scope : String) (now : Instant)
  | answer (call : Nat) (result : Except GatewayError α) (now : Instant)
  | expire (call : Nat) (now : Instant)
  | abandon (call : Nat) (now : Instant)
  /-- All scopes are forgotten. -/
  | clear

variable {α : Type}

def Event.now? : Event α → Option Instant
  | start _ _ now => some now
  | answer _ _ now => some now
  | expire _ now => some now
  | abandon _ now => some now
  | clear => none

/-- A call that is begun under a policy has breaker settings of a kind. -/
def Event.Under (P : BreakerSettings → Prop) : Event α → Prop
  | start (some p) _ _ => P p.breaker
  | _ => True

/-- A call that is begun under a policy is begun under one that was made from a configuration. -/
def Event.Configured : Event α → Prop
  | start (some p) _ _ => ∃ c, p = .ofConfig c
  | _ => True

theorem Event.Configured.under
    {P : BreakerSettings → Prop}
    {e : Event α}
    (h : e.Configured)
    (hP : ∀ settings : BreakerSettings, settings.Usable → P settings) :
    e.Under P := by
  cases e with
  | start p scope now =>
      cases p with
      | none => trivial
      | some p =>
          obtain ⟨c, rfl⟩ := h
          exact hP _ (Policy.usable_ofConfig c)
  | _ => trivial

/-- A call that was not given up. -/
def call? (w : Switchboard α) (call : Nat) : Option (Call α) := w.calls[call]?.join

/-- The guards under which the calls wait. -/
def guards (w : Switchboard α) : List (Option Guard) := w.calls.map (·.bind Call.guard?)

/-- The guard under which a call waits. -/
def guard? (w : Switchboard α) (call : Nat) : Option Guard := w.guards[call]?.join

/-- The calls with which the breakers became half-open, when another call is begun. -/
def entering (w : Switchboard α) (c : Call α) : Nat → Nat := fun i =>
  if w.breakers.breakers[i]?.any (·.state.isOpen) ∧ probeAt i c.guard? = some true then
    w.calls.length
  else w.entered i

/-- Another state of the breakers and of a call. -/
def put (w : Switchboard α) (call : Nat) (next : BreakerRegistry × Call α) : Switchboard α :=
  { w with breakers := next.1, calls := w.calls.set call (some next.2) }

/-- The switchboard after an event. A call expires only when its time is over. -/
def meet (w : Switchboard α) : Event α → Switchboard α
  | .start policy scope now =>
      let next := Call.start w.breakers policy scope now
      { breakers := next.1, calls := w.calls ++ [some next.2], entered := w.entering next.2 }
  | .answer call result now =>
      match w.call? call with
      | some c => w.put call (Call.conduct.answer now w.breakers c result)
      | none => w
  | .expire call now =>
      match w.call? call with
      | some c =>
          if Desk.isDue Call.conduct now c then w.put call (Call.conduct.expire now w.breakers c)
          else w
      | none => w
  | .abandon call now =>
      match w.call? call with
      | some c =>
          { w with
            breakers := Call.conduct.abandon now w.breakers c
            calls := w.calls.set call none }
      | none => w
  | .clear => { w with breakers := w.breakers.clear }

def after (w : Switchboard α) (events : List (Event α)) : Switchboard α :=
  events.foldl meet w

/-- The switchboard after events from the beginning, when there are no breakers and no calls. -/
def run (events : List (Event α)) : Switchboard α := ({} : Switchboard α).after events

/-- The call that an event ends, whether it has succeeded, and when. -/
def ending? (w : Switchboard α) : Event α → Option (Nat × Bool × Instant)
  | .start _ _ _ => none
  | .answer call result now => some (call, result.isOk, now)
  | .expire call now =>
      if (w.call? call).any (Desk.isDue Call.conduct now) then some (call, false, now) else none
  | .abandon call now => some (call, false, now)
  | .clear => none

/-- The guard under which an event begins a call, if it passes. -/
def admission? (w : Switchboard α) : Event α → Option Guard
  | .start policy scope now =>
      (Call.start w.breakers policy scope now : BreakerRegistry × Call α).2.guard?
  | _ => none

/-- The guards under which events begin calls that a breaker lets pass. -/
def admissions (w : Switchboard α) (i : Nat) : List (Event α) → List Guard
  | [] => []
  | e :: es =>
      (w.admission? e).toList.filter (fun g => g.breaker = i) ++ admissions (w.meet e) i es

/-- What an event does at the breakers. -/
def notes (w : Switchboard α) (e : Event α) : List (Nat × Note) :=
  match e with
  | .start (some p) scope now =>
      let next := w.breakers.getOrCreate scope p.breaker
      [(next.2, .asked w.calls.length (next.1.check next.2 now).2 now)]
  | e =>
      match w.ending? e with
      | some (call, succeeded, now) =>
          (w.guard? call).toList.map fun g => (g.breaker, .settled call g.probe succeeded now)
      | none => []

def history (w : Switchboard α) : List (Event α) → List (Nat × Note)
  | [] => []
  | e :: es => w.notes e ++ history (w.meet e) es

/-- What is done at one breaker. -/
def ledger (i : Nat) (h : List (Nat × Note)) : List Note :=
  h.filterMap fun n => if n.1 = i then some n.2 else none

/-- What is done by one call. -/
def dealings (call : Nat) (h : List (Nat × Note)) : List (Nat × Note) :=
  h.filter fun n => n.2.call = call

/-- What a breaker sees of an event. -/
def acts (w : Switchboard α) (i : Nat) (e : Event α) : List Watch.Event :=
  match e with
  | .start (some p) scope now =>
      if (w.breakers.getOrCreate scope p.breaker).2 = i then [.ask now] else [.elsewhere]
  | .start none _ _ => [.elsewhere]
  | e =>
      match w.ending? e with
      | some (call, succeeded, now) => [.settle call succeeded now]
      | none => []

/-- What a breaker sees of events. -/
def actsAlong (w : Switchboard α) (i : Nat) : List (Event α) → List Watch.Event
  | [] => []
  | e :: es => w.acts i e ++ actsAlong (w.meet e) i es

/-- A breaker with its calls; where there is none yet, the one that will be made with settings. -/
def watch (w : Switchboard α) (i : Nat) (settings : BreakerSettings) : Watch where
  breaker := w.breakers.breakers[i]?.getD { settings }
  calls := w.guards.map (probeAt i)
  entered := w.entered i

/-- The breakers to which scopes and guards refer are there. -/
structure Sound (w : Switchboard α) : Prop where
  scopes : w.breakers.Sound
  guards : ∀ g, some g ∈ w.guards → g.breaker < w.breakers.breakers.size

section Steps

variable {w : Switchboard α}

theorem mem_guards_of_guard?
    {call : Nat}
    {g : Guard}
    (h : w.guard? call = some g) :
    some g ∈ w.guards :=
  List.mem_of_getElem? (Option.join_eq_some_iff.1 h)

theorem guard?_eq (w : Switchboard α) (call : Nat) :
    w.guard? call = (w.call? call).bind Call.guard? := by
  unfold guard? guards call?
  rw [List.getElem?_map]
  cases w.calls[call]? <;> rfl

theorem now?_of_ending?
    {e : Event α}
    {call : Nat}
    {succeeded : Bool}
    {now : Instant}
    (h : w.ending? e = some (call, succeeded, now)) :
    e.now? = some now := by
  cases e with
  | start policy scope t => cases h
  | clear => cases h
  | answer id result t =>
      cases h
      rfl
  | abandon id t =>
      cases h
      rfl
  | expire id t =>
      simp only [ending?] at h
      split at h
      · cases h
        rfl
      · cases h

/-- How a switchboard changes with the end of a call. -/
structure Ended (w w' : Switchboard α) (call : Nat) (succeeded : Bool) (now : Instant) : Prop where
  breakers : w'.breakers = (leave w.breakers (w.guard? call) succeeded now).1
  guards : w'.guards = w.guards.set call none
  entered : w'.entered = w.entered

theorem ended_of_call?_eq_none
    {call : Nat}
    (h : w.call? call = none)
    (succeeded : Bool)
    (now : Instant) :
    Ended w w call succeeded now := by
  have hguard : w.guard? call = none := by rw [guard?_eq, h, Option.bind_none]
  exact ⟨by rw [hguard]; rfl, (Watch.set_none_of_join_eq_none hguard).symm, rfl⟩

theorem ended_put
    {call : Nat}
    {c : Call α}
    (h : w.call? call = some c)
    (result : Except GatewayError α)
    (now : Instant) :
    Ended w (w.put call (c.finish now w.breakers result)) call result.isOk now := by
  obtain ⟨hbreakers, hguard⟩ := c.finish_eq w.breakers now result
  refine ⟨?_, ?_, rfl⟩
  · rw [guard?_eq, h]
    exact hbreakers
  · show (w.calls.set call (some (c.finish now w.breakers result).2)).map _ = _
    rw [List.map_set, Option.bind_some, hguard]
    rfl

/-- The breaker that let a call pass takes its outcome. -/
theorem Ended.getElem?_breakers
    {w' : Switchboard α}
    {call : Nat}
    {succeeded : Bool}
    {now : Instant}
    (h : Ended w w' call succeeded now)
    (i : Nat) :
    w'.breakers.breakers[i]? =
      match probeAt i (w.guard? call) with
      | some probe => w.breakers.breakers[i]?.map (·.record probe succeeded now)
      | none => w.breakers.breakers[i]? := by
  rw [h.breakers]
  cases w.guard? call with
  | none => rfl
  | some g =>
      rw [getElem?_leave, probeAt_some]
      by_cases hi : g.breaker = i <;> simp [hi]

/-- What comes of a call when an event ends it. -/
theorem ended_meet
    {e : Event α}
    {call : Nat}
    {succeeded : Bool}
    {now : Instant}
    (h : w.ending? e = some (call, succeeded, now)) :
    Ended w (w.meet e) call succeeded now := by
  cases e with
  | start policy scope t => cases h
  | clear => cases h
  | answer id result t =>
      cases h
      cases hcall : w.call? call with
      | none =>
          simp only [meet, hcall]
          exact ended_of_call?_eq_none hcall _ now
      | some c =>
          simp only [meet, hcall]
          exact ended_put hcall result now
  | expire id t =>
      cases hcall : w.call? id with
      | none => simp [ending?, hcall] at h
      | some c =>
          simp only [ending?, hcall, Option.any_some] at h
          split at h
          · rename_i hdue
            cases h
            simp only [meet, hcall, if_pos hdue]
            exact ended_put hcall (.error .downstreamTimeout) now
          · cases h
  | abandon id t =>
      cases h
      cases hcall : w.call? call with
      | none =>
          simp only [meet, hcall]
          exact ended_of_call?_eq_none hcall false now
      | some c =>
          simp only [meet, hcall]
          have hfinished := ended_put hcall (.error .downstreamTimeout) now
          refine ⟨hfinished.breakers, ?_, rfl⟩
          show (w.calls.set call none).map _ = _
          rw [List.map_set]
          rfl

/-- How a switchboard changes when a call asks the breaker `i`, which is `b` by then. -/
structure Begun (w w' : Switchboard α) (p : Policy) (scope : String) (now : Instant) (i : Nat)
    (b : Breaker) : Prop where
  inCharge : w.breakers.scopes[scope]? = some i ∨
    w.breakers.scopes[scope]? = none ∧ w.breakers.breakers.size = i
  breaker : w.breakers.breakers[i]?.getD { settings := p.breaker } = b
  breakers : ∀ j, w'.breakers.breakers[j]? =
    if i = j then some (b.check now).1 else w.breakers.breakers[j]?
  size : w.breakers.breakers.size ≤ w'.breakers.breakers.size
  scopes : ∀ other, w'.breakers.scopes[other]? =
    if scope = other then some i else w.breakers.scopes[other]?
  sound : w'.breakers.Sound
  guards : w'.guards =
    w.guards ++ [(b.check now).2.trial?.map fun probe => ⟨i, probe, now + p.timeout⟩]
  entered : ∀ j, w'.entered j =
    if i = j ∧ b.state.isOpen ∧ (b.check now).2.trial? = some true then w.calls.length
    else w.entered j

theorem begun_meet
    (hw : w.breakers.Sound)
    (p : Policy)
    (scope : String)
    (now : Instant) :
    ∃ i b,
      Begun w (w.meet (.start (some p) scope now)) p scope now i b ∧
      (w.breakers.getOrCreate scope p.breaker).2 = i ∧
      ((w.breakers.getOrCreate scope p.breaker).1.check i now).2 = (b.check now).2 := by
  have hself := BreakerRegistry.getElem?_getOrCreate_self scope p.breaker hw
  have hother := fun j h =>
    BreakerRegistry.getElem?_getOrCreate_of_ne (r := w.breakers) scope p.breaker (j := j) h
  have hanswer := BreakerRegistry.snd_check _ hself now
  have hinCharge := w.breakers.inCharge_getOrCreate scope p.breaker
  refine ⟨_, _, ⟨hinCharge, rfl, ?_, ?_, ?_, ?_, ?_, ?_⟩, rfl, hanswer⟩
  all_goals simp only [meet, Call.start_some]
  · intro j
    rw [BreakerRegistry.getElem?_check]
    split
    · rename_i hij
      rw [← hij, hself]
      rfl
    · rename_i hij
      exact hother j hij
  · rw [BreakerRegistry.size_check]
    exact BreakerRegistry.size_getOrCreate_le scope p.breaker
  · intro other
    rw [BreakerRegistry.scopes_check]
    exact BreakerRegistry.scopes_getOrCreate scope p.breaker other
  · have hsize := BreakerRegistry.size_check (w.breakers.getOrCreate scope p.breaker).1
    exact (BreakerRegistry.sound_getOrCreate scope p.breaker hw).of_scopes
      (Or.inl (BreakerRegistry.scopes_check _ _ _)) (Nat.le_of_eq (hsize _ now).symm)
  · rw [hanswer]
    refine List.map_append.trans (congrArg _ ?_)
    cases (Breaker.check _ now).2.trial? <;> rfl
  -- a breaker that is made for the call is closed, so it is not entered
  · intro j
    rw [hanswer]
    unfold entering
    cases (Breaker.check _ now).2.trial? with
    | none => simp [Call.guard?]
    | some probe =>
        by_cases hij : (w.breakers.getOrCreate scope p.breaker).2 = j
        · subst hij
          cases w.breakers.breakers[(w.breakers.getOrCreate scope p.breaker).2]? <;>
            simp [Call.guard?, BreakerState.isOpen]
        · simp [Call.guard?, hij]

/-- What an event is to the breakers and calls. -/
inductive Met (w : Switchboard α) (e : Event α) : Prop
  | begun (p : Policy) (scope : String) (now : Instant) (i : Nat) (b : Breaker)
      (event : e = .start (some p) scope now)
      (next : Begun w (w.meet e) p scope now i b)
      (admission : w.admission? e =
        (b.check now).2.trial?.map fun probe => ⟨i, probe, now + p.timeout⟩)
      (notes : w.notes e = [(i, .asked w.calls.length (b.check now).2 now)])
      (acts : ∀ j, w.acts j e = if i = j then [.ask now] else [.elsewhere])
  | unguarded (scope : String) (now : Instant)
      (event : e = .start none scope now)
  | ended (call : Nat) (succeeded : Bool) (now : Instant)
      (ending : w.ending? e = some (call, succeeded, now))
      (next : Ended w (w.meet e) call succeeded now)
      (admission : w.admission? e = none)
      (notes : w.notes e =
        (w.guard? call).toList.map fun g => (g.breaker, .settled call g.probe succeeded now))
      (acts : ∀ i, w.acts i e = [.settle call succeeded now])
  | cleared
      (event : e = .clear)
  | idle
      (next : w.meet e = w)
      (admission : w.admission? e = none)
      (notes : w.notes e = [])
      (acts : ∀ i, w.acts i e = [])

theorem acts_of_ending?
    {e : Event α}
    {call : Nat}
    {succeeded : Bool}
    {t : Instant}
    (h : w.ending? e = some (call, succeeded, t))
    (i : Nat) :
    w.acts i e = [.settle call succeeded t] := by
  cases e with
  | start policy scope now => cases h
  | clear => cases h
  | answer id result now => simp only [acts, h]
  | expire id now => simp only [acts, h]
  | abandon id now => simp only [acts, h]

theorem met_of_ending?_eq_some
    {e : Event α}
    {call : Nat}
    {succeeded : Bool}
    {now : Instant}
    (h : w.ending? e = some (call, succeeded, now)) :
    w.Met e := by
  cases e with
  | start policy scope t => cases h
  | clear => cases h
  | answer id result t =>
      exact .ended call succeeded now h (ended_meet h) rfl (by simp only [notes, h])
        (acts_of_ending? h)
  | expire id t =>
      exact .ended call succeeded now h (ended_meet h) rfl (by simp only [notes, h])
        (acts_of_ending? h)
  | abandon id t =>
      exact .ended call succeeded now h (ended_meet h) rfl (by simp only [notes, h])
        (acts_of_ending? h)

/-- The time of a call is not over, or it was given up before. -/
theorem meet_expire_of_ending?_eq_none
    {call : Nat}
    {now : Instant}
    (h : w.ending? (.expire call now) = none) :
    w.meet (.expire call now) = w := by
  cases hcall : w.call? call with
  | none => simp only [meet, hcall]
  | some c =>
      simp only [ending?, hcall, Option.any_some] at h
      simp only [meet, hcall]
      split at h
      · cases h
      · rename_i hdue
        exact if_neg hdue

theorem met (hw : w.breakers.Sound) (e : Event α) : w.Met e := by
  cases h : w.ending? e with
  | some ending => exact met_of_ending?_eq_some h
  | none =>
      cases e with
      | start policy scope now =>
          cases policy with
          | none => exact .unguarded scope now rfl
          | some p =>
              obtain ⟨i, b, hnext, hi, hanswer⟩ := begun_meet hw p scope now
              refine .begun p scope now i b rfl hnext ?_ ?_ fun j => ?_
              · simp only [admission?, Call.start_some, hi, hanswer]
                cases (b.check now).2.trial? <;> rfl
              · simp only [notes, hi, hanswer]
              · simp only [acts, hi]
      | answer id result now => cases h
      | abandon id now => cases h
      | clear => exact .cleared rfl
      | expire id now =>
          exact .idle (meet_expire_of_ending?_eq_none h) rfl (by simp only [notes, h])
            fun i => by simp only [acts, h]

@[simp] theorem length_guards (w : Switchboard α) : w.guards.length = w.calls.length := by
  simp [guards]

/-- A call without a policy only takes its place. -/
theorem meet_unguarded (w : Switchboard α) (scope : String) (now : Instant) :
    w.meet (.start none scope now) = { w with calls := w.calls ++ [some (.waiting none)] } := by
  have hentered : w.entering (.waiting none) = w.entered := by
    funext i
    simp [entering, Call.guard?]
  simp [Switchboard.meet, Call.start, enter, hentered]

theorem guards_meet_unguarded (w : Switchboard α) (scope : String) (now : Instant) :
    (w.meet (.start none scope now)).guards = w.guards ++ [none] :=
  List.map_append

theorem after_append (w : Switchboard α) (es es' : List (Event α)) :
    w.after (es ++ es') = (w.after es).after es' :=
  List.foldl_append

theorem run_append (es es' : List (Event α)) : run (es ++ es') = (run es).after es' :=
  after_append _ es es'

theorem sound_new : ({} : Switchboard α).Sound where
  scopes := ⟨by simp, by simp⟩
  guards := by
    intro g hg
    cases hg

/-- The breakers to which scopes and guards refer stay there. -/
theorem Sound.meet (hw : w.Sound) (e : Event α) : (w.meet e).Sound := by
  cases met hw.scopes e with
  | begun p scope now i b hevent hnext _ _ _ =>
      refine ⟨hnext.sound, ?_⟩
      intro g hg
      rw [hnext.guards, List.mem_append] at hg
      rcases hg with hg | hg
      · exact Nat.lt_of_lt_of_le (hw.guards g hg) hnext.size
      · rw [List.mem_singleton] at hg
        obtain ⟨probe, _, rfl⟩ := Option.map_eq_some_iff.1 hg.symm
        have hi := hnext.breakers i
        rw [if_pos rfl] at hi
        exact (Array.getElem?_eq_some_iff.1 hi).1
  | unguarded scope now hevent =>
      subst hevent
      refine ⟨hw.scopes, ?_⟩
      intro g hg
      rw [guards_meet_unguarded, List.mem_append] at hg
      rcases hg with hg | hg
      · exact hw.guards g hg
      · simp at hg
  | ended call succeeded now _ hnext _ _ _ =>
      have hscopes := hnext.breakers ▸ scopes_leave w.breakers (w.guard? call) succeeded now
      have hsize := hnext.breakers ▸ size_leave w.breakers (w.guard? call) succeeded now
      refine ⟨hw.scopes.of_scopes (Or.inl hscopes) (Nat.le_of_eq hsize.symm), ?_⟩
      intro g hg
      rw [hsize]
      rw [hnext.guards] at hg
      rcases List.mem_or_eq_of_mem_set hg with hg | hg
      · exact hw.guards g hg
      · cases hg
  | cleared hevent =>
      subst hevent
      exact ⟨hw.scopes.of_scopes (Or.inr rfl) (Nat.le_refl _), hw.guards⟩
  | idle hnext _ _ _ =>
      rw [hnext]
      exact hw

theorem Sound.after (hw : w.Sound) (events : List (Event α)) : (w.after events).Sound := by
  induction events generalizing w with
  | nil => exact hw
  | cons e es ih => exact ih (hw.meet e)

theorem sound_run (events : List (Event α)) : (run events).Sound :=
  sound_new.after events

end Steps

end Switchboard
end Qos
end ApiGateway
