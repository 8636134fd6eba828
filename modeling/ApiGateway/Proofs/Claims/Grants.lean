import ApiGateway.Claims.Basic

/-!
# What claims are good for

Claims satisfy a route if they have every pair that it requires, and a scope that it allows where it
names any; `authorise_eq_ok_iff` says that they are checked for just this. Every value of a type
counts, not only the first one, so more claims, in whatever order, satisfy what fewer did.
-/

namespace ApiGateway
namespace Claims

variable {c c' : Claims}
variable {required : List (String × String)}
variable {allowed : List String}

/-- Claims satisfy required pairs and allowed scopes; no allowed scopes allow all. -/
structure Satisfies (c : Claims) (required : List (String × String)) (allowed : List String) :
    Prop where
  required : ∀ q ∈ required, q ∈ c.pairs
  scope : allowed ≠ [] → ∃ v, ("scope", v) ∈ c.pairs ∧ ∃ w ∈ Text.words v, w ∈ allowed

theorem mem_getAll
    {type value : String} :
    value ∈ c.getAll type ↔ (type, value) ∈ c.pairs := by
  simp [getAll]

/-- Nothing is missing if all that is required is claimed. -/
theorem firstMissing?_eq_none_iff :
    c.firstMissing? required = none ↔ ∀ q ∈ required, q ∈ c.pairs := by
  simp [firstMissing?, mem_getAll]

/-- A scope counts whichever of the scope claims it is a word of. -/
theorem hasScope_iff :
    c.hasScope allowed = true ↔
      ∃ v, ("scope", v) ∈ c.pairs ∧ ∃ w ∈ Text.words v, w ∈ allowed := by
  simp [hasScope, mem_getAll]

/-- Claims are granted what they satisfy, and nothing else. -/
theorem authorise_eq_ok_iff :
    c.authorise required allowed = .ok () ↔ c.Satisfies required allowed := by
  unfold authorise
  constructor
  · intro h
    split at h
    · cases h
    · rename_i hnone
      split at h
      · rename_i hscope
        refine ⟨firstMissing?_eq_none_iff.1 hnone, fun hne => ?_⟩
        rw [Bool.or_eq_true, List.isEmpty_iff] at hscope
        exact hasScope_iff.1 (hscope.resolve_left hne)
      · cases h
  · intro h
    rw [firstMissing?_eq_none_iff.2 h.required]
    refine if_pos ?_
    rw [Bool.or_eq_true, List.isEmpty_iff, hasScope_iff]
    exact Decidable.or_iff_not_imp_left.2 h.scope

/-- Claims that are satisfied stay so when others are added or their order changes. -/
theorem Satisfies.mono
    (h : c.Satisfies required allowed)
    (hmore : ∀ q ∈ c.pairs, q ∈ c'.pairs) :
    c'.Satisfies required allowed := by
  refine ⟨fun q hq => hmore q (h.required q hq), fun hne => ?_⟩
  obtain ⟨v, hv, hword⟩ := h.scope hne
  exact ⟨v, hmore _ hv, hword⟩

end Claims
end ApiGateway
