import ApiGateway.Text.Blank
import Mathlib.Data.List.DropRight

/-!
# Texts without the blanks around them

What trimming leaves of a text: the text is this with blanks in front of it and behind it, and it
begins and ends with none. A text of blanks has nothing left. No text has two such rests, so
trimming is told by what it leaves (`trimChars_eq_iff`).
-/

namespace ApiGateway
namespace Text

/-- What is left of a text when the blanks at its two ends are dropped. -/
structure TrimsTo (cs inner : List Char) : Prop where
  padded : ∃ front back,
    cs = front ++ inner ++ back ∧
    (∀ c ∈ front, isBlank c = true) ∧
    ∀ c ∈ back, isBlank c = true
  first : ∀ c ∈ inner.head?, isBlank c = false
  last : ∀ c ∈ inner.getLast?, isBlank c = false

theorem not_isBlank_of_isDigit
    {c : Char}
    (h : c.isDigit = true) :
    isBlank c = false := by
  have hclass : 48 ≤ c.toNat ∧ c.toNat ≤ 57 := Char.isDigit_iff_toNat.1 h
  simp only [isBlank, Bool.or_eq_false_iff, Bool.and_eq_false_iff, decide_eq_false_iff_not,
    beq_eq_false_iff_ne]
  omega

section

variable {cs inner : List Char}

theorem dropWhile_isBlank_eq_self (h : ∀ c ∈ cs.head?, isBlank c = false) :
    cs.dropWhile isBlank = cs := by
  cases cs with
  | nil => rfl
  | cons c cs => rw [List.dropWhile_cons_of_neg (by simp [h c rfl])]

theorem head?_dropWhile_isBlank (cs : List Char) :
    ∀ c ∈ (cs.dropWhile isBlank).head?, isBlank c = false := by
  intro c hc
  have hfirst := List.head?_dropWhile_not isBlank cs
  rw [Option.mem_def.1 hc] at hfirst
  simpa using hfirst

theorem trimChars_eq_rdropWhile (cs : List Char) :
    trimChars cs = (cs.dropWhile isBlank).rdropWhile isBlank :=
  rfl

/-- Trimming leaves what is between the blanks at the ends. -/
theorem trimsTo_trimChars (cs : List Char) : TrimsTo cs (trimChars cs) := by
  have hsplit : cs = cs.takeWhile isBlank ++ trimChars cs ++
      ((cs.dropWhile isBlank).reverse.takeWhile isBlank).reverse := by
    have hback := List.takeWhile_append_dropWhile (p := isBlank)
      (l := (cs.dropWhile isBlank).reverse)
    rw [List.append_assoc, trimChars, ← List.reverse_append, hback, List.reverse_reverse,
      List.takeWhile_append_dropWhile]
  have hfirst := head?_dropWhile_isBlank cs
  have hlast := head?_dropWhile_isBlank (cs.dropWhile isBlank).reverse
  refine ⟨⟨_, _, hsplit, fun c hc => List.mem_takeWhile_imp hc, fun c hc => ?_⟩, fun c hc => ?_, ?_⟩
  · exact List.mem_takeWhile_imp (List.mem_reverse.1 hc)
  · -- what is left is a front part of the text behind its first blanks
    obtain ⟨back, hback⟩ := List.rdropWhile_prefix isBlank (cs.dropWhile isBlank)
    refine hfirst c ?_
    rw [← hback, ← trimChars_eq_rdropWhile]
    exact List.mem_head?_append_of_mem_head? hc
  · rwa [trimChars, List.getLast?_reverse]

/-- Whatever is between the blanks at the ends is left by trimming. -/
theorem TrimsTo.trimChars_eq (h : TrimsTo cs inner) : trimChars cs = inner := by
  obtain ⟨⟨front, back, rfl, hfront, hback⟩, hfirst, hlast⟩ := h
  have hreverse : ∀ c ∈ inner.reverse.head?, isBlank c = false := by
    rwa [List.head?_reverse]
  rw [trimChars, List.append_assoc, List.dropWhile_append_of_pos hfront]
  cases inner with
  | nil =>
      rw [List.nil_append, List.dropWhile_eq_nil_iff.2 hback]
      rfl
  | cons c inner =>
      have hkept : ((c :: inner) ++ back).dropWhile isBlank = (c :: inner) ++ back :=
        dropWhile_isBlank_eq_self hfirst
      rw [hkept, List.reverse_append,
        List.dropWhile_append_of_pos fun c hc => hback c (List.mem_reverse.1 hc),
        dropWhile_isBlank_eq_self hreverse, List.reverse_reverse]

theorem trimChars_eq_iff : trimChars cs = inner ↔ TrimsTo cs inner :=
  ⟨fun h => h ▸ trimsTo_trimChars cs, TrimsTo.trimChars_eq⟩

/-- What is left of a text is part of it. -/
theorem TrimsTo.mem
    (h : TrimsTo cs inner)
    {c : Char}
    (hc : c ∈ inner) :
    c ∈ cs := by
  obtain ⟨⟨front, back, rfl, _, _⟩, _, _⟩ := h
  exact List.mem_append_left _ (List.mem_append_right _ hc)

/-- What is left may have blanks around it again. -/
theorem TrimsTo.pad
    (h : TrimsTo cs inner)
    {front back : List Char}
    (hfront : ∀ c ∈ front, isBlank c = true)
    (hback : ∀ c ∈ back, isBlank c = true) :
    TrimsTo (front ++ inner ++ back) inner :=
  ⟨⟨front, back, rfl, hfront, hback⟩, h.first, h.last⟩

/-- A text that begins and ends with no blank is what is left of it. -/
theorem trimsTo_self
    (hfirst : ∀ c ∈ inner.head?, isBlank c = false)
    (hlast : ∀ c ∈ inner.getLast?, isBlank c = false) :
    TrimsTo inner inner :=
  ⟨⟨[], [], by simp, nofun, nofun⟩, hfirst, hlast⟩

end

end Text
end ApiGateway
