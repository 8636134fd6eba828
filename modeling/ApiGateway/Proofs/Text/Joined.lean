/-!
# Joined texts

Names that are joined at a mark do not always tell their parts: where a part has the mark itself,
it may as well be the mark between the parts.
-/

namespace ApiGateway
namespace Text

/-- Two rows that are equal when joined at a mark are equal, or one of them has the mark itself. -/
theorem append_mark_eq_iff
    {mark : Char}
    {as bs as' bs' : List Char} :
    as ++ mark :: bs = as' ++ mark :: bs' ↔
      (as = as' ∧ bs = bs') ∨
      ∃ ds,
        (as' = as ++ mark :: ds ∧ bs = ds ++ mark :: bs') ∨
        (as = as' ++ mark :: ds ∧ bs' = ds ++ mark :: bs) := by
  constructor
  · intro h
    rcases List.append_eq_append_iff.1 h with ⟨ds, hd, hrest⟩ | ⟨ds, hd, hrest⟩
    · cases ds with
      | nil =>
          cases hrest
          exact Or.inl ⟨by rw [hd, List.append_nil], rfl⟩
      | cons d ds =>
          cases hrest
          exact Or.inr ⟨ds, Or.inl ⟨hd, rfl⟩⟩
    · cases ds with
      | nil =>
          cases hrest
          exact Or.inl ⟨by rw [hd, List.append_nil], rfl⟩
      | cons d ds =>
          cases hrest
          exact Or.inr ⟨ds, Or.inr ⟨hd, rfl⟩⟩
  · rintro (⟨rfl, rfl⟩ | ⟨ds, ⟨rfl, rfl⟩ | ⟨rfl, rfl⟩⟩)
    · rfl
    · simp only [List.append_assoc, List.cons_append]
    · simp only [List.append_assoc, List.cons_append]

/-- Two texts are joined to one at a mark just when they are equal or one has the mark itself. -/
theorem joined_eq_iff
    (mark : Char)
    (a b a' b' : String) :
    a ++ String.singleton mark ++ b = a' ++ String.singleton mark ++ b' ↔
      (a = a' ∧ b = b') ∨
      ∃ d,
        (a' = a ++ String.singleton mark ++ d ∧ b = d ++ String.singleton mark ++ b') ∨
        (a = a' ++ String.singleton mark ++ d ∧ b' = d ++ String.singleton mark ++ b) := by
  have hlist : ∀ s t : String, (s ++ String.singleton mark ++ t).toList =
      s.toList ++ mark :: t.toList := by
    intro s t
    simp [String.toList_append]
  rw [← String.toList_inj, hlist, hlist, append_mark_eq_iff, String.toList_inj, String.toList_inj]
  refine or_congr Iff.rfl ⟨?_, ?_⟩
  · rintro ⟨ds, h⟩
    refine ⟨String.ofList ds, ?_⟩
    simpa only [← String.toList_inj, hlist, String.toList_ofList] using h
  · rintro ⟨d, h⟩
    refine ⟨d.toList, ?_⟩
    simpa only [← String.toList_inj, hlist] using h

end Text
end ApiGateway
