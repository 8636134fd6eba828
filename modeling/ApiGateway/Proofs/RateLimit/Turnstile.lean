import ApiGateway.Proofs.RateLimit.Refinement
import Mathlib.Data.List.Induction
import Mathlib.Logic.Function.Basic

/-!
# Checks that overlap

An attempt on a key is not one step. It finds the counter of the key or makes one, it waits for the
lock of this counter, and once it has the lock it looks whether the counter is still the one that
is registered; if a sweep has taken it in the meantime, it starts over, and otherwise it decides
and counts. Checks of the same key and sweeps come in between at any of these points. A
`Turnstile` is where they meet: the counters that were ever made for the key, which of them is
registered, who holds their locks and how far every check has come. Its actions may come in any
order; one that is not possible changes nothing. The look of a sweep at a counter is one step, at a
reading of the clock that may be older.

Main statements: `check_alone` and `sweep_alone` say that a check and a sweep that nothing comes in
between do what they do to the limiter.
-/

namespace ApiGateway
namespace RateLimit

/-- How far a check has come. -/
inductive Phase
  | seeking
  /-- It has found a counter and waits for its lock. -/
  | waiting (counter : Nat)
  | holding (counter : Nat)
  /-- It holds the lock and has seen that the counter is the registered one. -/
  | confirmed (counter : Nat)
  | done (decision : Decision)
deriving DecidableEq

/-- What is noted of the window of the key: that it opened, or how an attempt was decided. -/
inductive Note
  | opened (time : Instant)
  | decided (time : Instant) (counter : Nat) (registered : Option Nat) (decision : Decision)
deriving DecidableEq

/-- What can happen; checks are told apart by numbers. -/
inductive Action
  | advance (time : Instant)
  | find (check : Nat)
  | lock (check : Nat)
  | confirm (check : Nat)
  | rule (check : Nat)
  | sweep (reading : Instant)

namespace Note

/-- Whether the window opened. -/
def opens : Note → Bool
  | opened _ => true
  | decided .. => false

/-- Whether an attempt was admitted. -/
def admits : Note → Bool
  | opened _ => false
  | decided _ _ _ d => d.allowed

def decision? : Note → Option (Instant × Decision)
  | opened _ => none
  | decided t _ _ d => some (t, d)

end Note

/-- The admissions since the window opened, in notes of which the latest is the first. -/
def sinceOpening : List Note → Nat
  | [] => 0
  | n :: ns => if n.opens then 0 else sinceOpening ns + if n.admits then 1 else 0

/-- The checks and sweeps that meet at one key. -/
structure Turnstile where
  now : Instant := 0
  /-- How many counters were made so far. -/
  made : Nat := 0
  counter : Nat → Counter := fun _ => ⟨0, 0, 0⟩
  registered : Option Nat := none
  holder : Nat → Option Nat := fun _ => none
  phase : Nat → Phase := fun _ => .seeking
  /-- The notes, the latest in front. -/
  log : List Note := []

namespace Turnstile

variable (p : Policy)
variable (s : Turnstile)

/-- The note of a window that opens with an attempt. -/
def openingBy (c : Counter) (now : Instant) : List Note :=
  if p.period ≤ now - c.windowStart then [.opened now] else []

/-- A check finds the registered counter, or makes one and registers it. -/
def find (k : Nat) : Turnstile :=
  match s.registered with
  | some id => { s with phase := Function.update s.phase k (.waiting id) }
  | none =>
      { s with
        made := s.made + 1
        counter := Function.update s.counter s.made (.opened p.period s.now)
        registered := some s.made
        phase := Function.update s.phase k (.waiting s.made)
        log := .opened s.now :: s.log }

/-- A check that holds the lock of a counter goes on if the counter is registered. -/
def confirm (k id : Nat) : Turnstile :=
  if s.registered = some id then { s with phase := Function.update s.phase k (.confirmed id) }
  else
    { s with
      phase := Function.update s.phase k .seeking
      holder := Function.update s.holder id none }

/-- A check decides, counts and lets the lock go. -/
def rule (k id : Nat) : Turnstile :=
  { s with
    counter := Function.update s.counter id ((s.counter id).attempt p s.now).1
    holder := Function.update s.holder id none
    phase := Function.update s.phase k (.done ((s.counter id).attempt p s.now).2)
    log := .decided s.now id s.registered ((s.counter id).attempt p s.now).2 ::
      (openingBy p (s.counter id) s.now ++ s.log) }

/-- A sweep takes a counter if its deadline was read and nobody holds its lock. -/
def sweep (reading : Instant) : Turnstile :=
  match s.registered with
  | some id =>
      if (s.counter id).windowEndMicros ≤ microReading reading ∧ s.holder id = none then
        { s with registered := none }
      else s
  | none => s

/-- What an action does. -/
def step : Action → Turnstile
  | .advance t => if s.now ≤ t then { s with now := t } else s
  | .find k =>
      match s.phase k with
      | .seeking => s.find p k
      | _ => s
  | .lock k =>
      match s.phase k with
      | .waiting id =>
          if s.holder id = none then
            { s with
              phase := Function.update s.phase k (.holding id)
              holder := Function.update s.holder id (some k) }
          else s
      | _ => s
  | .confirm k =>
      match s.phase k with
      | .holding id => s.confirm k id
      | _ => s
  | .rule k =>
      match s.phase k with
      | .confirmed id => s.rule p k id
      | _ => s
  | .sweep reading => if reading ≤ s.now then s.sweep reading else s

def after (actions : List Action) : Turnstile :=
  actions.foldl (step p) s

/-- The decisions, the latest in front. -/
def decisions : List (Instant × Decision) :=
  s.log.filterMap Note.decision?

/-- What an action can do, each way with its guard. -/
inductive Stepped : Action → Turnstile → Prop
  | idle {a : Action} : Stepped a s
  | advanced {t : Instant} (hnow : s.now ≤ t) : Stepped (.advance t) { s with now := t }
  | found {k id : Nat} (hphase : s.phase k = .seeking) (hreg : s.registered = some id) :
      Stepped (.find k) { s with phase := Function.update s.phase k (.waiting id) }
  | made {k : Nat} (hphase : s.phase k = .seeking) (hreg : s.registered = none) :
      Stepped (.find k)
        { s with
          made := s.made + 1
          counter := Function.update s.counter s.made (.opened p.period s.now)
          registered := some s.made
          phase := Function.update s.phase k (.waiting s.made)
          log := .opened s.now :: s.log }
  | locked {k id : Nat} (hphase : s.phase k = .waiting id) (hfree : s.holder id = none) :
      Stepped (.lock k)
        { s with
          phase := Function.update s.phase k (.holding id)
          holder := Function.update s.holder id (some k) }
  | confirmed {k id : Nat} (hphase : s.phase k = .holding id) (hreg : s.registered = some id) :
      Stepped (.confirm k) { s with phase := Function.update s.phase k (.confirmed id) }
  | retried {k id : Nat} (hphase : s.phase k = .holding id) (hreg : s.registered ≠ some id) :
      Stepped (.confirm k)
        { s with
          phase := Function.update s.phase k .seeking
          holder := Function.update s.holder id none }
  | ruled {k id : Nat} (hphase : s.phase k = .confirmed id) : Stepped (.rule k) (s.rule p k id)
  | swept {reading : Instant} {id : Nat}
      (hreading : reading ≤ s.now)
      (hreg : s.registered = some id)
      (hend : (s.counter id).windowEndMicros ≤ microReading reading)
      (hfree : s.holder id = none) :
      Stepped (.sweep reading) { s with registered := none }

theorem stepped (a : Action) : s.Stepped p a (s.step p a) := by
  cases a with
  | advance t =>
      simp only [step]
      split
      · exact .advanced ‹_›
      · exact .idle
  | find k =>
      simp only [step]
      split
      · unfold find
        split
        · exact .found ‹_› ‹_›
        · exact .made ‹_› ‹_›
      · exact .idle
  | lock k =>
      simp only [step]
      split
      · split
        · exact .locked ‹_› ‹_›
        · exact .idle
      · exact .idle
  | confirm k =>
      simp only [step]
      split
      · unfold confirm
        split
        · exact .confirmed ‹_› ‹_›
        · exact .retried ‹_› ‹_›
      · exact .idle
  | rule k =>
      simp only [step]
      split
      · exact .ruled ‹_›
      · exact .idle
  | sweep reading =>
      simp only [step]
      split
      · unfold sweep
        split
        · split
          · rename_i hreading _ id hreg h
            exact .swept hreading hreg h.1 h.2
          · exact .idle
        · exact .idle
      · exact .idle

section Alone

/-- The counter that is registered. -/
def registeredCounter : Option Counter := s.registered.map s.counter

/-- The actions of a check that nothing comes in between. -/
def allOf (k : Nat) : List Action := [.find k, .lock k, .confirm k, .rule k]

variable {s}

/-- Once it has found the counter, a check whose counter nobody holds is decided by it. -/
theorem rest_alone
    {k id : Nat}
    (hphase : s.phase k = .waiting id)
    (hfree : s.holder id = none)
    (hreg : s.registered = some id) :
    (s.after p [.lock k, .confirm k, .rule k]).phase k =
      .done ((s.counter id).attempt p s.now).2 ∧
    (s.after p [.lock k, .confirm k, .rule k]).registeredCounter =
      some ((s.counter id).attempt p s.now).1 := by
  have hlock : s.step p (.lock k) =
      { s with
        phase := Function.update s.phase k (.holding id)
        holder := Function.update s.holder id (some k) } := by
    simp only [step, hphase, hfree, if_true]
  simp only [after, List.foldl_cons, List.foldl_nil, hlock]
  simp [step, confirm, rule, hreg, registeredCounter]

/-- While nobody holds a lock, a check that nothing comes in between is one of the limiter. -/
theorem check_alone
    {l : Limiter}
    {caller : Caller}
    {k : Nat}
    (hcounter : l.counters[caller.key]? = s.registeredCounter)
    (hphase : s.phase k = .seeking)
    (hfree : ∀ id, s.holder id = none) :
    (s.after caller.policy (allOf k)).phase k = .done (l.ask ⟨caller, s.now⟩).2 ∧
    (s.after caller.policy (allOf k)).registeredCounter =
      (l.ask ⟨caller, s.now⟩).1.counters[caller.key]? := by
  have hself := Limiter.getElem?_ask_self l ⟨caller, s.now⟩
  have hkey : (Check.mk caller s.now).key = caller.key := rfl
  rw [hkey] at hself
  rw [hself, Limiter.ask_snd, Limiter.answering, Limiter.found, hkey, hcounter]
  have hsplit : s.after caller.policy (allOf k) =
      (s.step caller.policy (.find k)).after caller.policy [.lock k, .confirm k, .rule k] := rfl
  rw [hsplit]
  cases hreg : s.registered with
  | some id =>
      have hfound : s.step caller.policy (.find k) =
          { s with phase := Function.update s.phase k (.waiting id) } := by
        simp only [step, find, hphase, hreg]
      rw [hfound, registeredCounter, hreg]
      exact rest_alone caller.policy (Function.update_self ..) (hfree id) rfl
  | none =>
      let opened : Turnstile :=
        { s with
          made := s.made + 1
          counter := Function.update s.counter s.made (.opened caller.policy.period s.now)
          registered := some s.made
          phase := Function.update s.phase k (.waiting s.made)
          log := .opened s.now :: s.log }
      have hmade : s.step caller.policy (.find k) = opened := by
        simp only [step, find, hphase, hreg, opened]
      have hopened : opened.counter s.made = .opened caller.policy.period s.now :=
        Function.update_self ..
      have hwaits : opened.phase k = .waiting s.made := Function.update_self ..
      have hrest := rest_alone caller.policy hwaits (hfree s.made) rfl
      rw [hopened] at hrest
      rw [hmade, registeredCounter, hreg, Option.map_none, Option.getD_none]
      exact hrest

/-- While nobody holds the lock of the registered counter, a sweep is one of the limiter. -/
theorem sweep_alone
    {l : Limiter}
    {key : String}
    (hcounter : l.counters[key]? = s.registeredCounter)
    (hfree : ∀ id, s.registered = some id → s.holder id = none) :
    (s.step p (.sweep s.now)).registeredCounter = (l.dropClosed s.now).counters[key]? := by
  rw [Limiter.dropClosed, Std.ExtTreeMap.getElem?_filter', hcounter]
  simp only [step, Nat.le_refl, if_true, sweep]
  cases hreg : s.registered with
  | none => simp [registeredCounter, hreg]
  | some id =>
      by_cases hend : (s.counter id).windowEndMicros ≤ microReading s.now
      · have hclosed : ¬ microReading s.now < (s.counter id).windowEndMicros :=
          Nat.not_lt_of_le hend
        simp [registeredCounter, hreg, hend, hfree id hreg, Option.filter_some, hclosed]
      · have hopen : microReading s.now < (s.counter id).windowEndMicros := Nat.lt_of_not_le hend
        simp [registeredCounter, hreg, hend, Option.filter_some, hopen]

end Alone

end Turnstile

end RateLimit
end ApiGateway
