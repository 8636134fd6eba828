import Mathlib.Data.List.Chain
import ApiGateway.Proofs.Route.Reading

/-!
# The grammar of templates

A text is a template if it is made of characters that are no braces and of names in braces
(`IsTemplate`). Just these texts are read, and nothing of them is lost: the pieces, written one
after another, are the text, none of them is empty, and no two literal texts stand side by side
(`Fits`). All pieces that fit together so are read from what they are written as.

Main statement: `tokenize_iff_grammar`.
-/

namespace ApiGateway

namespace Segment

/-- Literal text, and no placeholder. -/
def IsLiteral : Segment → Prop
  | literal _ => True
  | placeholder _ => False

/-- One piece may stand right behind another, unless both are literal text. -/
def MayTouch (seg next : Segment) : Prop :=
  ¬ (seg.IsLiteral ∧ next.IsLiteral)

end Segment

namespace Template

/-- The texts of the grammar: characters that are no braces, and names in braces. -/
inductive IsTemplate : List Char → Prop
  | nil : IsTemplate []
  | char {c : Char} {cs : List Char} :
      c ≠ '\x7b' →
      c ≠ '\x7d' →
      IsTemplate cs →
      IsTemplate (c :: cs)
  | placeholder {name : String} {cs : List Char} :
      IsPlaceholderName name →
      IsTemplate cs →
      IsTemplate ('\x7b' :: (name.toList ++ '\x7d' :: cs))

/-- A piece as it may stand in a template: text without braces that is not empty, or a name. -/
def IsPiece : Segment → Prop
  | .literal text => text ≠ "" ∧ IsPlain text
  | .placeholder name => IsPlaceholderName name

/-- Pieces that may stand in a template, with a placeholder between any two literal texts. -/
structure Fits (segs : List Segment) : Prop where
  pieces : ∀ seg ∈ segs, IsPiece seg
  apart : segs.IsChain Segment.MayTouch

section Pieces

variable {segs : List Segment}

/-- A piece touches what the pieces behind it begin with. -/
theorem isChain_mayTouch_cons (seg : Segment) (segs : List Segment) :
    (seg :: segs).IsChain Segment.MayTouch ↔
      ¬ (seg.IsLiteral ∧ BeginsLiteral segs) ∧ segs.IsChain Segment.MayTouch := by
  cases segs with
  | nil => simp [BeginsLiteral]
  | cons next segs =>
      rw [List.isChain_cons_cons]
      cases next <;> rfl

theorem fits_cons_iff (seg : Segment) (segs : List Segment) :
    Fits (seg :: segs) ↔ IsPiece seg ∧ ¬ (seg.IsLiteral ∧ BeginsLiteral segs) ∧ Fits segs := by
  constructor
  · rintro ⟨hpieces, hapart⟩
    obtain ⟨hseg, hsegs⟩ := List.forall_mem_cons.1 hpieces
    obtain ⟨hfirst, hrest⟩ := (isChain_mayTouch_cons seg segs).1 hapart
    exact ⟨hseg, hfirst, hsegs, hrest⟩
  · rintro ⟨hseg, hfirst, hsegs, hrest⟩
    exact ⟨List.forall_mem_cons.2 ⟨hseg, hsegs⟩, (isChain_mayTouch_cons seg segs).2 ⟨hfirst, hrest⟩⟩

/-- Tight pieces are those that fit together. -/
theorem isTight_iff_fits : IsTight segs ↔ Fits segs := by
  induction segs with
  | nil => exact iff_of_true trivial ⟨List.forall_mem_nil _, .nil⟩
  | cons seg segs ih =>
      rw [fits_cons_iff, ← ih]
      cases seg with
      | literal text => simp only [IsTight, IsPiece, Segment.IsLiteral, true_and, and_assoc]
      | placeholder name =>
          simp only [IsTight, IsPiece, Segment.IsLiteral, false_and, not_false_eq_true, true_and]

end Pieces

section Grammar

variable {segs : List Segment}
variable {cs : List Char}

/-- Text without braces may stand in front of any template. -/
theorem isTemplate_append
    {text : List Char}
    (hopen : '\x7b' ∉ text)
    (hclose : '\x7d' ∉ text)
    (h : IsTemplate cs) :
    IsTemplate (text ++ cs) := by
  induction text with
  | nil => exact h
  | cons c text ih =>
      rw [List.mem_cons, not_or] at hopen hclose
      exact .char (Ne.symm hopen.1) (Ne.symm hclose.1) (ih hopen.2 hclose.2)

/-- What tight pieces are written as is a template. -/
theorem isTemplate_render (h : IsTight segs) : IsTemplate (render segs).toList := by
  induction segs with
  | nil => exact .nil
  | cons seg segs ih =>
      rw [render_cons, String.toList_append]
      cases seg with
      | literal text =>
          obtain ⟨_, hplain, _, htight⟩ := h
          exact isTemplate_append hplain.1 hplain.2 (ih htight)
      | placeholder name =>
          obtain ⟨hname, htight⟩ := h
          rw [toList_render_placeholder, List.cons_append, List.append_assoc,
            List.singleton_append]
          exact .placeholder hname (ih htight)

/-- A character that is no brace joins the literal text behind it, or becomes one of its own. -/
theorem exists_isTight_char
    {c : Char}
    (hopen : c ≠ '\x7b')
    (hclose : c ≠ '\x7d')
    (h : IsTight segs) :
    ∃ segs', IsTight segs' ∧ (render segs').toList = c :: (render segs).toList := by
  have hplain : ∀ text, IsPlain text → IsPlain (String.singleton c ++ text) := by
    rintro text ⟨hnoOpen, hnoClose⟩
    simp [IsPlain, hnoOpen, hnoClose, Ne.symm hopen, Ne.symm hclose]
  have hne : ∀ text, String.singleton c ++ text ≠ "" := fun text hempty => by
    simpa using congrArg String.toList hempty
  by_cases hfirst : BeginsLiteral segs
  · cases segs with
    | nil => exact hfirst.elim
    | cons seg segs =>
        cases seg with
        | literal text =>
            obtain ⟨_, htext, hnext, htight⟩ := h
            refine ⟨.literal (String.singleton c ++ text) :: segs,
              ⟨hne text, hplain text htext, hnext, htight⟩, ?_⟩
            simp [Segment.render]
        | placeholder name => exact hfirst.elim
  · refine ⟨.literal (String.singleton c ++ "") :: segs,
      ⟨hne "", hplain "" ⟨List.not_mem_nil, List.not_mem_nil⟩, hfirst, h⟩, ?_⟩
    simp [Segment.render]

/-- Every template is what some tight pieces are written as. -/
theorem exists_isTight_of_isTemplate (h : IsTemplate cs) :
    ∃ segs, IsTight segs ∧ (render segs).toList = cs := by
  induction h with
  | nil => exact ⟨[], trivial, rfl⟩
  | char hopen hclose _ ih =>
      obtain ⟨segs, htight, rfl⟩ := ih
      exact exists_isTight_char hopen hclose htight
  | @placeholder name _ hname _ ih =>
      obtain ⟨segs, htight, rfl⟩ := ih
      refine ⟨.placeholder name :: segs, ⟨hname, htight⟩, ?_⟩
      rw [render_cons, String.toList_append, toList_render_placeholder, List.cons_append,
        List.append_assoc, List.singleton_append]

end Grammar

/--
A text is read just when it is a template. The pieces that are read are written as the text, and
they fit together; and any pieces that fit together are read from what they are written as.
-/
theorem tokenize_iff_grammar (s : String) :
    ((∃ segs, tokenize s = .ok segs) ↔ IsTemplate s.toList) ∧
    (∀ segs, tokenize s = .ok segs → render segs = s ∧ Fits segs) ∧
    (∀ segs, Fits segs → tokenize (render segs) = .ok segs) := by
  refine ⟨⟨?_, fun h => ?_⟩, fun segs h => ?_, fun segs h => ?_⟩
  · rintro ⟨segs, h⟩
    obtain ⟨htight, rfl⟩ := tokenize_eq_ok_iff.1 h
    exact isTemplate_render htight
  · obtain ⟨segs, htight, hwritten⟩ := exists_isTight_of_isTemplate h
    exact ⟨segs, tokenize_eq_ok_iff.2 ⟨htight, String.toList_inj.1 hwritten⟩⟩
  · obtain ⟨htight, hwritten⟩ := tokenize_eq_ok_iff.1 h
    exact ⟨hwritten, isTight_iff_fits.1 htight⟩
  · exact tokenize_eq_ok_iff.2 ⟨isTight_iff_fits.2 h, rfl⟩

/-- A name may have blanks and signs in it, and placeholders may touch. -/
example :
    tokenize "/é\x7ba b?\x7d\x7b.\x7d/" =
      .ok [.literal "/é", .placeholder "a b?", .placeholder ".", .literal "/"] := by
  rfl

end Template
end ApiGateway
