import ApiGateway.Proofs.Http.Fields
import ApiGateway.RateLimit.Decision

/-!
# What callers are told of their quota

A decision tells its caller something under three names or under one, or nothing at all where the
policy has no headers for it (`Decision.tells?`). The headers that are made of a decision have these
texts and nothing else, apart from a text that is no header value.
-/

namespace ApiGateway

/-- The names under which the rate limiter tells callers something. -/
def HeaderName.advisory : List HeaderName :=
  [RateLimit.limitHeader, RateLimit.remainingHeader, RateLimit.resetHeader, .retryAfter]

/-- All fields of some headers have one of the names. -/
def Headers.Within (h : Headers) (names : List HeaderName) : Prop :=
  ∀ f ∈ h.fields, f.1 ∈ names

theorem Headers.within_empty (names : List HeaderName) : ({} : Headers).Within names :=
  nofun

/-- Nothing is under a name that is not one of them. -/
theorem Headers.Within.getAll_eq_nil
    {h : Headers}
    {names : List HeaderName}
    (hh : h.Within names)
    {n : HeaderName}
    (hn : n ∉ names) :
    h.getAll n = [] :=
  (h.getAll_eq_nil_iff n).2 fun f hf heq => hn (heq ▸ hh f hf)

namespace RateLimit

variable (d : Decision)
variable (p : Policy)
variable (wallClock : Duration)

/-- What a decision tells under a name. -/
def Decision.tells? (n : HeaderName) : Option String :=
  if p.disableHeaders then none
  else if d.allowed then
    if n = limitHeader then some p.periodLabel
    else if n = remainingHeader then some (toString d.remaining)
    else if n = resetHeader then
      some (Calendar.print (Duration.secs (wallClock + d.resetAfter)))
    else none
  else if n = .retryAfter then some (toString (retryAfterSecs d.resetAfter))
  else none

/-- The headers that are made of a decision have what it tells. -/
theorem Decision.getAll_headers (n : HeaderName) :
    (d.headers p wallClock).getAll n =
      ((d.tells? p wallClock n).bind HeaderValue.ofText?).toList := by
  have hempty : ∀ m, ({} : Headers).getAll m = [] := fun _ => rfl
  have hremaining : remainingHeader ≠ limitHeader := by decide
  have hreset : resetHeader ≠ limitHeader ∧ resetHeader ≠ remainingHeader := by decide
  unfold headers tells?
  split
  · rfl
  split
  · -- The three names are distinct, so each text is written where nothing was.
    rw [Headers.getAll_setText_of_nil, Headers.getAll_setText_of_nil,
      Headers.getAll_setText_of_nil _ _ (hempty _), hempty]
    · simp only [eq_comm (a := n)]
      by_cases hn : resetHeader = n
      · subst hn
        rw [if_pos rfl, if_neg hreset.1.symm, if_neg hreset.2.symm, if_pos rfl, Option.bind_some]
      by_cases hn' : remainingHeader = n
      · subst hn'
        rw [if_neg hn, if_pos rfl, if_neg hremaining.symm, if_pos rfl, Option.bind_some]
      by_cases hn'' : limitHeader = n
      · rw [if_neg hn, if_neg hn', if_pos hn'', if_pos hn'', Option.bind_some]
      · rw [if_neg hn, if_neg hn', if_neg hn'', if_neg hn'', if_neg hn', if_neg hn]
        rfl
    · rw [Headers.getAll_setText_of_ne _ hremaining.symm, hempty]
    · rw [Headers.getAll_setText_of_ne _ hreset.2.symm,
        Headers.getAll_setText_of_ne _ hreset.1.symm, hempty]
  · rw [Headers.getAll_setText_of_nil _ _ (hempty _), hempty]
    by_cases hn : .retryAfter = n
    · rw [if_pos hn, if_pos hn.symm, Option.bind_some]
    · rw [if_neg hn, if_neg (Ne.symm hn)]
      rfl

theorem Decision.within_headers : (d.headers p wallClock).Within HeaderName.advisory := by
  intro f hf
  refine Decidable.byContradiction fun hn => ?_
  have hsome : (d.headers p wallClock).getAll f.1 ≠ [] := fun hnil =>
    ((Headers.getAll_eq_nil_iff _ _).1 hnil) f hf rfl
  simp only [HeaderName.advisory, List.mem_cons, List.not_mem_nil, or_false, not_or] at hn
  obtain ⟨hlimit, hremaining, hreset, hretry⟩ := hn
  rw [getAll_headers] at hsome
  simp [tells?, hlimit, hremaining, hreset, hretry] at hsome

end RateLimit
end ApiGateway
