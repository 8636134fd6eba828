import ApiGateway.Breaker.Basic

/-!
# Transitions of a breaker

The state diagram of a breaker, drawn as two relations with a constructor for each of its arrows:
`Checked` for the calls that ask it, `Recorded` for the outcomes it is told. `checked_check` and
`recorded_record` say that the breaker follows the diagram; all that is proved of breakers is read
off it.

What calls do at a breaker is written down as a list of notes, and `hear` says what a note makes of
the breaker.
-/

namespace ApiGateway

/-- Whether a call that passes is a trial; nothing for a call that does not pass. -/
def BreakerCheck.trial? : BreakerCheck → Option Bool
  | .allowed => some false
  | .probe => some true
  | .rejected => none

def BreakerState.isOpen : BreakerState → Bool
  | .opened _ => true
  | _ => false

theorem BreakerState.exists_of_isOpen {s : BreakerState} (h : s.isOpen = true) :
    ∃ retryAt, s = .opened retryAt := by
  cases s with
  | closed failures windowStart => cases h
  | opened retryAt => exact ⟨retryAt, rfl⟩
  | halfOpen trials => cases h

namespace Breaker

/-- Takes the outcome of a call. -/
def record (b : Breaker) (probe succeeded : Bool) (now : Instant) : Breaker :=
  if succeeded then b.recordSuccess probe else (b.recordFailure probe now).1

/-- What a call does at a breaker. -/
inductive Note
  | asked (call : Nat) (answer : BreakerCheck) (now : Instant)
  | settled (call : Nat) (probe succeeded : Bool) (now : Instant)
deriving DecidableEq

namespace Note

/-- The call that does it. -/
def call : Note → Nat
  | asked call _ _ => call
  | settled call _ _ _ => call

/-- Whether the call is a trial, if the breaker lets it pass. -/
def admission? : Note → Option Bool
  | asked _ answer _ => answer.trial?
  | settled _ _ _ _ => none

/-- Whether it is the outcome of a trial. -/
def endsTrial : Note → Bool
  | asked _ _ _ => false
  | settled _ probe _ _ => probe

/-- Whether it is a success. -/
def succeeds : Note → Bool
  | asked _ _ _ => false
  | settled _ _ succeeded _ => succeeded

def failure? : Note → Option Instant
  | asked _ _ _ => none
  | settled _ _ succeeded now => if succeeded then none else some now

end Note

/-- The calls that pass by notes, each by whether it is a trial. -/
def admissions (notes : List Note) : List Bool := notes.filterMap Note.admission?

/-- What a note makes of a breaker. -/
def hear (b : Breaker) : Note → Breaker
  | .asked _ _ now => (b.check now).1
  | .settled _ probe succeeded now => b.record probe succeeded now

/-- How a breaker answers a call. -/
inductive Checked (b : Breaker) (now : Instant) (r : Breaker × BreakerCheck) : Prop
  | passed {failures : Nat} {windowStart : Option Instant}
      (state : b.state = .closed failures windowStart)
      (result : r = (b, .allowed))
  | refused {retryAt : Instant}
      (state : b.state = .opened retryAt)
      (early : now < retryAt)
      (result : r = (b, .rejected))
  | entered {retryAt : Instant}
      (state : b.state = .opened retryAt)
      (elapsed : retryAt ≤ now)
      (result : r = ({ b with state := .halfOpen 1 }, .probe))
  | tried {trials : Nat}
      (state : b.state = .halfOpen trials)
      (room : trials < b.settings.halfOpenTrials)
      (result : r = ({ b with state := .halfOpen (trials + 1) }, .probe))
  | full {trials : Nat}
      (state : b.state = .halfOpen trials)
      (taken : b.settings.halfOpenTrials ≤ trials)
      (result : r = (b, .rejected))

/-- What the outcome of a call makes of a breaker. -/
inductive Recorded (b : Breaker) (probe succeeded : Bool) (now : Instant) (b' : Breaker) : Prop
  | reset {failures : Nat} {windowStart : Option Instant}
      (state : b.state = .closed failures windowStart)
      (outcome : succeeded = true)
      (result : b' = { b with state := .closed 0 none })
  | counted {failures : Nat} {windowStart : Option Instant}
      (state : b.state = .closed failures windowStart)
      (outcome : succeeded = false)
      (few : (b.countFailure failures windowStart now).1 < b.settings.failureThreshold)
      (result : b' =
        { b with state := .closed (b.countFailure failures windowStart now).1
                  (some (b.countFailure failures windowStart now).2) })
  | opened {failures : Nat} {windowStart : Option Instant}
      (state : b.state = .closed failures windowStart)
      (outcome : succeeded = false)
      (enough : b.settings.failureThreshold ≤ (b.countFailure failures windowStart now).1)
      (result : b' = b.opened now)
  | recovered {trials : Nat}
      (state : b.state = .halfOpen trials)
      (trial : probe = true)
      (outcome : succeeded = true)
      (result : b' = { b with state := .closed 0 none })
  | reopened {trials : Nat}
      (state : b.state = .halfOpen trials)
      (trial : probe = true)
      (outcome : succeeded = false)
      (result : b' = b.opened now)
  | ignored {trials : Nat}
      (state : b.state = .halfOpen trials)
      (trial : probe = false)
      (result : b' = b)
  | late {retryAt : Instant}
      (state : b.state = .opened retryAt)
      (result : b' = b)

section Diagram

variable (b : Breaker)
variable (probe succeeded : Bool)
variable (now : Instant)

theorem checked_check : b.Checked now (b.check now) := by
  unfold check
  cases h : b.state with
  | closed failures windowStart => exact .passed h rfl
  | opened retryAt =>
      by_cases hover : retryAt ≤ now
      · exact .entered h hover (if_pos hover)
      · exact .refused h (Nat.lt_of_not_le hover) (if_neg hover)
  | halfOpen trials =>
      by_cases hroom : trials < b.settings.halfOpenTrials
      · exact .tried h hroom (if_pos hroom)
      · exact .full h (Nat.le_of_not_lt hroom) (if_neg hroom)

theorem recorded_record : b.Recorded probe succeeded now (b.record probe succeeded now) := by
  cases succeeded with
  | true =>
      unfold record recordSuccess
      cases h : b.state with
      | closed failures windowStart => exact .reset h rfl rfl
      | opened retryAt => exact .late h rfl
      | halfOpen trials =>
          cases hprobe : probe with
          | true => exact .recovered h rfl rfl rfl
          | false => exact .ignored h rfl rfl
  | false =>
      unfold record recordFailure
      cases h : b.state with
      | closed failures windowStart =>
          by_cases henough :
              b.settings.failureThreshold ≤ (b.countFailure failures windowStart now).1
          · refine .opened h rfl henough ?_
            simp [henough]
          · refine .counted h rfl (Nat.lt_of_not_le henough) ?_
            simp [henough]
      | opened retryAt => exact .late h rfl
      | halfOpen trials =>
          cases hprobe : probe with
          | true => exact .reopened h rfl rfl rfl
          | false => exact .ignored h rfl rfl

@[simp] theorem settings_opened : (b.opened now).settings = b.settings :=
  rfl

@[simp] theorem settings_check : (b.check now).1.settings = b.settings := by
  cases b.checked_check now with
  | passed _ hr => rw [hr]
  | refused _ _ hr => rw [hr]
  | entered _ _ hr => rw [hr]
  | tried _ _ hr => rw [hr]
  | full _ _ hr => rw [hr]

@[simp] theorem settings_record : (b.record probe succeeded now).settings = b.settings := by
  cases b.recorded_record probe succeeded now with
  | reset _ _ hr => rw [hr]
  | counted _ _ _ hr => rw [hr]
  | opened _ _ _ hr => rw [hr, settings_opened]
  | recovered _ _ _ hr => rw [hr]
  | reopened _ _ _ hr => rw [hr, settings_opened]
  | ignored _ _ hr => rw [hr]
  | late _ hr => rw [hr]

end Diagram

end Breaker
end ApiGateway
