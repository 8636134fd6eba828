import ApiGateway.Net.Ip
import ApiGateway.Proofs.Http.Addresses
import ApiGateway.Proofs.Text.Pieces

/-!
# What addresses are written with

An address of the shorter form is written with digits and dots. One of the longer form is written
with hexadecimal digits, dots and colons, and has at least two colons and at most eight.

Main statement: `IpAddress.of_v6?`.
-/

namespace ApiGateway
namespace IpAddress

open Uri (isHostChar)

variable {cs : List Char}

/-- What is read of a list is read of each of its members. -/
theorem exists_of_mapM
    {α β : Type}
    {f : α → Option β}
    {xs : List α}
    {ys : List β}
    (h : xs.mapM f = some ys) :
    ∀ x ∈ xs, ∃ y, f x = some y := by
  induction xs generalizing ys with
  | nil => exact List.forall_mem_nil _
  | cons x xs ih =>
      rw [List.mapM_cons] at h
      obtain ⟨y, hy, h⟩ := Option.bind_eq_some_iff.1 h
      obtain ⟨ys', hys, _⟩ := Option.bind_eq_some_iff.1 h
      exact List.forall_mem_cons.2 ⟨⟨y, hy⟩, ih hys⟩

theorem isHostChar_of_octet?
    {n : UInt8}
    (h : octet? cs = some n) :
    ∀ c ∈ cs, isHostChar c = true := by
  unfold octet? at h
  split at h
  · cases h
  rename_i hshape
  simp only [Bool.or_eq_true, Bool.not_eq_true', not_or, Bool.not_eq_false, List.all_eq_true]
    at hshape
  exact fun c hc => Uri.isHostChar_of_isDigit (hshape.2 c hc)

/-- An address of the shorter form has digits and dots. -/
theorem of_v4?
    {a : UInt8 × UInt8 × UInt8 × UInt8}
    (h : v4? cs = some a) :
    cs ≠ [] ∧ ∀ c ∈ cs, isHostChar c = true := by
  constructor
  · rintro rfl
    cases h
  · unfold v4? at h
    split at h
    · rename_i hpieces
      intro c hc
      rcases Text.mem_splitWhere_of_mem (p := (· == '.')) hc with hdot | ⟨piece, hpiece, hc⟩
      · rw [eq_of_beq hdot]
        rfl
      · obtain ⟨_, hn⟩ := exists_of_mapM hpieces piece hpiece
        exact isHostChar_of_octet? hn c hc
    · cases h

theorem isHostChar_of_hexValue?
    {c : Char}
    {n : Nat}
    (h : Bytes.hexValue? c = some n) :
    isHostChar c = true := by
  have hletter : c.isAlpha = true → isHostChar c = true := by
    intro halpha
    simp [isHostChar, Char.isAlphanum, halpha]
  unfold Bytes.hexValue? at h
  split at h
  · exact Uri.isHostChar_of_isDigit ‹_›
  split at h
  · rename_i hlower
    refine hletter (Bool.or_eq_true_iff.2 (.inr (Bool.and_eq_true_iff.2 ?_)))
    exact ⟨decide_eq_true hlower.1, decide_eq_true (Char.le_trans hlower.2 (by decide))⟩
  split at h
  · rename_i hupper
    refine hletter (Bool.or_eq_true_iff.2 (.inl (decide_eq_true ?_)))
    exact ⟨hupper.1, Char.le_trans hupper.2 (by decide)⟩
  · cases h

theorem isHostChar_of_group?
    {g : UInt16}
    (h : group? cs = some g) :
    ∀ c ∈ cs, isHostChar c = true := by
  unfold group? at h
  split at h
  · cases h
  obtain ⟨_, hdigits, _⟩ := Option.bind_eq_some_iff.1 h
  intro c hc
  obtain ⟨_, hn⟩ := exists_of_mapM hdigits c hc
  exact isHostChar_of_hexValue? hn

/-- Pieces that denote groups have no colons; the last of them may denote two groups. -/
theorem of_groups?
    {pieces : List (List Char)}
    {gs : List UInt16}
    (h : groups? pieces = some gs) :
    (∀ piece ∈ pieces, ∀ c ∈ piece, isHostChar c = true) ∧
      pieces.length ≤ gs.length ∧ gs.length ≤ pieces.length + 1 := by
  induction pieces generalizing gs with
  | nil =>
      cases h
      exact ⟨List.forall_mem_nil _, Nat.le_refl _, Nat.zero_le _⟩
  | cons piece pieces ih =>
      cases pieces with
      | nil =>
          rw [List.forall_mem_singleton]
          unfold groups? at h
          split at h
          · rename_i g hg
            cases h
            exact ⟨isHostChar_of_group? hg, by simp⟩
          · obtain ⟨_, hv4, h⟩ := Option.bind_eq_some_iff.1 h
            cases h
            exact ⟨(of_v4? hv4).2, by simp⟩
      | cons next pieces =>
          obtain ⟨g, hg, h⟩ := Option.bind_eq_some_iff.1 h
          obtain ⟨gs', hgs, h⟩ := Option.bind_eq_some_iff.1 h
          cases h
          obtain ⟨hchars, hlower, hupper⟩ := ih hgs
          refine ⟨List.forall_mem_cons.2 ⟨isHostChar_of_group? hg, hchars⟩, ?_, ?_⟩ <;>
            simp only [List.length_cons] at hlower hupper ⊢ <;>
            omega

/-- Groups between colons: what they are written with, and how many colons there are. -/
theorem of_groups?_splitWhere
    {gs : List UInt16}
    (h : groups? (Text.splitWhere (· == ':') cs) = some gs) :
    (∀ c ∈ cs, isHostChar c = true ∨ c = ':') ∧
      cs.count ':' + 1 ≤ gs.length ∧ gs.length ≤ cs.count ':' + 2 := by
  obtain ⟨hchars, hlength⟩ := of_groups? h
  rw [Text.length_splitWhere] at hlength
  refine ⟨fun c hc => ?_, hlength⟩
  rcases Text.mem_splitWhere_of_mem (p := (· == ':')) hc with hcolon | ⟨piece, hpiece, hc⟩
  · exact .inr (eq_of_beq hcolon)
  · exact .inl (hchars piece hpiece c hc)

/-- The groups on one side of an omission. -/
theorem of_part?
    {gs : List UInt16}
    (h : part? cs = some gs) :
    (∀ c ∈ cs, isHostChar c = true ∨ c = ':') ∧ cs.count ':' ≤ gs.length - 1 := by
  unfold part? at h
  split at h
  · rename_i hempty
    obtain rfl := List.isEmpty_iff.1 hempty
    exact ⟨List.forall_mem_nil _, Nat.zero_le _⟩
  · obtain ⟨hchars, hlower, _⟩ := of_groups?_splitWhere h
    exact ⟨hchars, Nat.le_sub_one_of_lt hlower⟩

/-- A double colon stands between its two sides. -/
theorem eq_append_of_splitOmission?
    {front back : List Char}
    (h : splitOmission? cs = some (front, back)) :
    cs = front ++ ':' :: ':' :: back := by
  fun_induction splitOmission? cs generalizing front back with
  | case1 cs =>
      cases h
      rfl
  | case2 c cs _ ih =>
      obtain ⟨⟨front', back'⟩, hsplit, heq⟩ := Option.map_eq_some_iff.1 h
      cases heq
      rw [ih hsplit, List.cons_append]
  | case3 => cases h

/--
An address of the longer form has hexadecimal digits, dots and colons. There are at least two
colons, since there are eight groups, and at most eight, since an omission stands for a group or
more.
-/
theorem of_v6?
    {gs : List UInt16}
    (h : v6? cs = some gs) :
    (∀ c ∈ cs, isHostChar c = true ∨ c = ':') ∧ 2 ≤ cs.count ':' ∧ cs.count ':' ≤ 8 := by
  unfold v6? at h
  split at h
  · obtain ⟨gs', hgs, h⟩ := Option.bind_eq_some_iff.1 h
    split at h
    · obtain ⟨hchars, hlower, hupper⟩ := of_groups?_splitWhere hgs
      exact ⟨hchars, by omega, by omega⟩
    · cases h
  · rename_i front back hsplit
    split at h
    · cases h
    obtain ⟨fs, hfs, h⟩ := Option.bind_eq_some_iff.1 h
    obtain ⟨bs, hbs, h⟩ := Option.bind_eq_some_iff.1 h
    split at h
    · obtain ⟨hfront, hfrontCount⟩ := of_part? hfs
      obtain ⟨hback, hbackCount⟩ := of_part? hbs
      rw [eq_append_of_splitOmission? hsplit]
      refine ⟨fun c hc => ?_, ?_⟩
      · simp only [List.mem_append, List.mem_cons] at hc
        rcases hc with hc | rfl | rfl | hc
        · exact hfront c hc
        · exact .inr rfl
        · exact .inr rfl
        · exact hback c hc
      · rw [List.count_append, List.count_cons_self, List.count_cons_self]
        omega
    · cases h

end IpAddress
end ApiGateway
