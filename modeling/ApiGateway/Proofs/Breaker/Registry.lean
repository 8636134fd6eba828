import ApiGateway.Breaker.Registry
import ApiGateway.Proofs.Breaker.Transitions

/-!
# The breakers of a registry

What the operations of a registry do to one of its breakers: the one that they are about takes a
transition of its own, all others stay as they are.
-/

namespace ApiGateway
namespace BreakerRegistry

/-- Every scope has a breaker of its own that there is. -/
structure Sound (r : BreakerRegistry) : Prop where
  there : ∀ {scope : String} {i : Nat}, r.scopes[scope]? = some i → i < r.breakers.size
  apart : ∀ {scope scope' : String} {i : Nat},
    r.scopes[scope]? = some i → r.scopes[scope']? = some i → scope = scope'

/-- Nothing is lost when breakers are added and the scopes stay or are forgotten. -/
theorem Sound.of_scopes
    {r r' : BreakerRegistry}
    (hr : r.Sound)
    (hscopes : r'.scopes = r.scopes ∨ r'.scopes = ∅)
    (hsize : r.breakers.size ≤ r'.breakers.size) :
    r'.Sound := by
  rcases hscopes with h | h
  · refine ⟨?_, ?_⟩ <;> rw [h]
    · intro scope i hi
      exact Nat.lt_of_lt_of_le (hr.there hi) hsize
    · exact hr.apart
  · refine ⟨?_, ?_⟩ <;> simp [h]

section Operations

variable (r : BreakerRegistry)

/-- A scope has its breaker, or gets a new one. -/
theorem getOrCreate_cases (scope : String) (settings : BreakerSettings) :
    (∃ i, r.scopes[scope]? = some i ∧ r.getOrCreate scope settings = (r, i)) ∨
    (r.scopes[scope]? = none ∧
      r.getOrCreate scope settings =
        (⟨r.breakers.push { settings }, r.scopes.insert scope r.breakers.size⟩,
          r.breakers.size)) := by
  unfold getOrCreate
  cases h : r.scopes[scope]? with
  | some i => exact Or.inl ⟨i, rfl, rfl⟩
  | none => exact Or.inr ⟨rfl, rfl⟩

/-- The breaker that a call asks was in charge of its scope, or is the next one. -/
theorem inCharge_getOrCreate (scope : String) (settings : BreakerSettings) :
    r.scopes[scope]? = some (r.getOrCreate scope settings).2 ∨
      r.scopes[scope]? = none ∧ r.breakers.size = (r.getOrCreate scope settings).2 := by
  rcases r.getOrCreate_cases scope settings with ⟨i, hi, h⟩ | ⟨hnone, h⟩ <;> rw [h]
  · exact Or.inl hi
  · exact Or.inr ⟨hnone, rfl⟩

section GetOrCreate

variable {r : BreakerRegistry}
variable (scope : String)
variable (settings : BreakerSettings)

/-- The breaker that a call asks. -/
theorem getElem?_getOrCreate_self (hr : r.Sound) :
    (r.getOrCreate scope settings).1.breakers[(r.getOrCreate scope settings).2]? =
      some ((r.breakers[(r.getOrCreate scope settings).2]?).getD { settings }) := by
  rcases r.getOrCreate_cases scope settings with ⟨i, hi, h⟩ | ⟨_, h⟩ <;> rw [h]
  · have hlt := hr.there hi
    simp [hlt]
  · simp

theorem getElem?_getOrCreate_of_ne
    {j : Nat}
    (h : (r.getOrCreate scope settings).2 ≠ j) :
    (r.getOrCreate scope settings).1.breakers[j]? = r.breakers[j]? := by
  rcases r.getOrCreate_cases scope settings with ⟨i, _, hr⟩ | ⟨_, hr⟩ <;> rw [hr] at h ⊢
  rw [Array.getElem?_push, if_neg (Ne.symm h)]

theorem size_getOrCreate_le : r.breakers.size ≤ (r.getOrCreate scope settings).1.breakers.size := by
  rcases r.getOrCreate_cases scope settings with ⟨i, _, h⟩ | ⟨_, h⟩ <;> simp [h]

theorem scopes_getOrCreate (other : String) :
    (r.getOrCreate scope settings).1.scopes[other]? =
      if scope = other then some (r.getOrCreate scope settings).2 else r.scopes[other]? := by
  rcases r.getOrCreate_cases scope settings with ⟨i, hi, h⟩ | ⟨_, h⟩ <;> rw [h]
  · split
    · rename_i heq
      rw [← heq, hi]
    · rfl
  · simp only [Std.ExtTreeMap.getElem?_insert, Std.compare_eq_iff_eq]

theorem sound_getOrCreate (hr : r.Sound) : (r.getOrCreate scope settings).1.Sound := by
  rcases r.getOrCreate_cases scope settings with ⟨i, _, h⟩ | ⟨_, h⟩ <;> rw [h]
  · exact hr
  · refine ⟨?_, ?_⟩
    · intro other i hi
      simp only [Std.ExtTreeMap.getElem?_insert, Std.compare_eq_iff_eq] at hi
      rw [Array.size_push]
      split at hi
      · cases hi
        exact Nat.lt_succ_self _
      · exact Nat.lt_succ_of_lt (hr.there hi)
    · intro other other' i hi hi'
      simp only [Std.ExtTreeMap.getElem?_insert, Std.compare_eq_iff_eq] at hi hi'
      split at hi <;> split at hi'
      · rename_i hscope hscope'
        exact hscope.symm.trans hscope'
      · cases hi
        exact absurd (hr.there hi') (Nat.lt_irrefl _)
      · cases hi'
        exact absurd (hr.there hi) (Nat.lt_irrefl _)
      · exact hr.apart hi hi'

end GetOrCreate

theorem scopes_check (i : Nat) (now : Instant) : (r.check i now).1.scopes = r.scopes := by
  unfold check
  split <;> rfl

theorem size_check (i : Nat) (now : Instant) :
    (r.check i now).1.breakers.size = r.breakers.size := by
  unfold check
  split
  · exact Array.size_setIfInBounds
  · rfl

theorem snd_check {i : Nat} {b : Breaker} (h : r.breakers[i]? = some b) (now : Instant) :
    (r.check i now).2 = (b.check now).2 := by
  simp only [check, h]

theorem getElem?_check (i : Nat) (now : Instant) (j : Nat) :
    (r.check i now).1.breakers[j]? =
      if i = j then r.breakers[j]?.map fun b => (b.check now).1 else r.breakers[j]? := by
  unfold check
  by_cases hij : i = j
  · subst hij
    cases h : r.breakers[i]? with
    | some b =>
        have hi := (Array.getElem?_eq_some_iff.1 h).1
        simp [hi]
    | none => simp [h]
  · rw [if_neg hij]
    split
    · exact Array.getElem?_setIfInBounds_ne hij
    · rfl

/-- A breaker that is in the way of a call stays as it is. -/
theorem check_of_rejected {i : Nat} {b : Breaker} (h : r.breakers[i]? = some b) {now : Instant}
    (hb : b.check now = (b, .rejected)) :
    r.check i now = (r, .rejected) := by
  obtain ⟨hi, hget⟩ := Array.getElem?_eq_some_iff.1 h
  have hset : r.breakers.setIfInBounds i b = r.breakers := by
    rw [← hget]
    simp [Array.setIfInBounds, hi]
  simp only [check, h, hb, hset]

/-- Reports the outcome of a call to a breaker. -/
theorem getElem?_recordSuccess (i : Nat) (probe : Bool) (j : Nat) :
    (r.recordSuccess i probe).breakers[j]? =
      if i = j then r.breakers[j]?.map (·.recordSuccess probe) else r.breakers[j]? :=
  Array.getElem?_modify

theorem getElem?_recordFailure (i : Nat) (probe : Bool) (now : Instant) (j : Nat) :
    (r.recordFailure i probe now).1.breakers[j]? =
      if i = j then r.breakers[j]?.map fun b => (b.recordFailure probe now).1
      else r.breakers[j]? := by
  unfold recordFailure
  by_cases hij : i = j
  · subst hij
    cases h : r.breakers[i]? with
    | some b =>
        have hi := (Array.getElem?_eq_some_iff.1 h).1
        simp [hi]
    | none => simp [h]
  · rw [if_neg hij]
    split
    · exact Array.getElem?_setIfInBounds_ne hij
    · rfl

end Operations

end BreakerRegistry
end ApiGateway
