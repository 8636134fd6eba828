import ApiGateway.Text.Numeral

/-!
# Numerals

What is read as a number: digits, behind a plus sign or not, if the number that they denote is
within the bound. Every number within the bound is read from its own digits.
-/

namespace ApiGateway
namespace Text

/-- Digits, behind a plus sign or not, that denote a number within a bound. -/
inductive IsNumeral (bound : Nat) : List Char → Nat → Prop
  | plain {digits : List Char} :
      digits ≠ [] →
      (∀ c ∈ digits, c.isDigit = true) →
      ofDigits digits ≤ bound →
      IsNumeral bound digits (ofDigits digits)
  | signed {digits : List Char} :
      digits ≠ [] →
      (∀ c ∈ digits, c.isDigit = true) →
      ofDigits digits ≤ bound →
      IsNumeral bound ('+' :: digits) (ofDigits digits)

section

variable {bound n : Nat}
variable {cs : List Char}

/-- The digits of a number denote it. -/
theorem ofDigits_toDigits (n : Nat) : ofDigits (Nat.toDigits 10 n) = n := by
  have hfold : ofDigits (Nat.toDigits 10 n) = Nat.ofDigitChars 10 (Nat.toDigits 10 n) 0 := by
    rw [Nat.ofDigitChars_eq_foldl]
    rfl
  rw [hfold, Nat.ofDigitChars_ten_toDigits]

/-- What is read without the plus sign that may stand in front. -/
theorem natural?_digits
    {digits : List Char}
    (hcs : cs = digits ∧ digits.head? ≠ some '+' ∨ cs = '+' :: digits) :
    natural? bound cs = some n ↔
      digits ≠ [] ∧ (∀ c ∈ digits, c.isDigit = true) ∧ ofDigits digits = n ∧ n ≤ bound := by
  have hdigits : (if cs.head? = some '+' then cs.drop 1 else cs) = digits := by
    rcases hcs with ⟨rfl, hsign⟩ | rfl
    · rw [if_neg hsign]
    · rfl
  have hshape : (digits.isEmpty || ! digits.all Char.isDigit) = false ↔
      digits ≠ [] ∧ ∀ c ∈ digits, c.isDigit = true := by
    simp
  simp only [natural?, hdigits]
  split
  · rename_i hbad
    refine iff_of_false nofun fun h => ?_
    rw [hshape.2 ⟨h.1, h.2.1⟩] at hbad
    cases hbad
  · rename_i hgood
    obtain ⟨hne, hall⟩ := hshape.1 (eq_false_of_ne_true hgood)
    split
    · rename_i hbound
      rw [Option.some.injEq]
      exact ⟨fun h => ⟨hne, hall, h, h ▸ hbound⟩, fun h => h.2.2.1⟩
    · rename_i hbound
      exact iff_of_false nofun fun h => hbound (h.2.2.1 ▸ h.2.2.2)

/-- Numerals are read, and nothing else. -/
theorem natural?_eq_some_iff : natural? bound cs = some n ↔ IsNumeral bound cs n := by
  constructor
  · intro h
    by_cases hsign : cs.head? = some '+'
    · obtain ⟨digits, rfl⟩ := List.head?_eq_some_iff.1 hsign
      obtain ⟨hne, hdigits, rfl, hbound⟩ := (natural?_digits (.inr rfl)).1 h
      exact .signed hne hdigits hbound
    · obtain ⟨hne, hdigits, rfl, hbound⟩ := (natural?_digits (.inl ⟨rfl, hsign⟩)).1 h
      exact .plain hne hdigits hbound
  · rintro (⟨hne, hdigits, hbound⟩ | ⟨hne, hdigits, hbound⟩)
    · have hsign : cs.head? ≠ some '+' := by
        intro hsign
        exact absurd (hdigits _ (List.mem_of_head? hsign)) (by decide)
      exact (natural?_digits (.inl ⟨rfl, hsign⟩)).2 ⟨hne, hdigits, rfl, hbound⟩
    · exact (natural?_digits (.inr rfl)).2 ⟨hne, hdigits, rfl, hbound⟩

/-- Every number within the bound is written by its digits. -/
theorem isNumeral_toDigits (h : n ≤ bound) : IsNumeral bound (Nat.toDigits 10 n) n := by
  have hnumeral : IsNumeral bound (Nat.toDigits 10 n) (ofDigits (Nat.toDigits 10 n)) :=
    .plain Nat.toDigits_ne_nil
      (fun _ hc => Nat.isDigit_of_mem_toDigits (by decide) (by decide) hc)
      (by rwa [ofDigits_toDigits])
  rwa [ofDigits_toDigits] at hnumeral

theorem IsNumeral.isDigit_or
    (h : IsNumeral bound cs n) :
    ∀ c ∈ cs, c.isDigit = true ∨ c = '+' := by
  cases h with
  | plain _ hdigits _ => exact fun c hc => .inl (hdigits c hc)
  | signed _ hdigits _ => exact List.forall_mem_cons.2 ⟨.inr rfl, fun c hc => .inl (hdigits c hc)⟩

theorem IsNumeral.le (h : IsNumeral bound cs n) : n ≤ bound := by
  cases h with
  | plain _ _ hbound => exact hbound
  | signed _ _ hbound => exact hbound

end

end Text
end ApiGateway
