import ApiGateway.Claims.Expression
import ApiGateway.Proofs.Text.Numerals
import ApiGateway.Proofs.Text.Trimming

/-!
# The grammar of claims expressions

A text is an expression if its parts are: it is cut at its first two marks, and what stands in front
of the first mark, between the two and behind them is trimmed (`IsCut`, `Text.TrimsTo`). The first
part names a claim, the second one selects the whole of it or a piece by an index, and the third one
is the delimiter of the pieces, which is given just when there is an index (`Denotes`).

Just these texts are read, and each as what it denotes. The delimiter may have the mark itself, and
all parts may have blanks around them; written without these, what was read is read again.

Main statement: `parse_iff_denotes`.
-/

namespace ApiGateway
namespace ClaimsExpression

open Text (TrimsTo IsNumeral isBlank)

/-- The parts of a text in front of its first mark, between its first two marks and behind them. -/
inductive IsCut : List Char → List Char → Option (List Char) → Option (List Char) → Prop
  | whole {first : List Char} :
      '>' ∉ first →
      IsCut first first none none
  | once {first second : List Char} :
      '>' ∉ first →
      '>' ∉ second →
      IsCut (first ++ '>' :: second) first (some second) none
  | twice {first second third : List Char} :
      '>' ∉ first →
      '>' ∉ second →
      IsCut (first ++ '>' :: (second ++ '>' :: third)) first (some second) (some third)

/-- The name of a claim: it is not empty, and free of brackets. -/
structure IsName (claim : List Char) : Prop where
  nonempty : claim ≠ []
  noOpening : '[' ∉ claim
  noClosing : ']' ∉ claim

/-- What the second part selects: the whole claim, or the piece with an index. -/
inductive Selects : List Char → Option Nat → Prop
  | all : Selects "value".toList none
  | piece {inner literal : List Char} {i : Nat} :
      TrimsTo inner literal →
      IsNumeral Text.max64 literal i →
      Selects ("value[".toList ++ inner ++ [']']) (some i)

/-- The delimiter that the third part gives; a blank part, as no part at all, gives none. -/
inductive Delimits : Option (List Char) → Option (List Char) → Prop
  | absent : Delimits none none
  | blank {third : List Char} :
      TrimsTo third [] →
      Delimits (some third) none
  | given {third delimiter : List Char} :
      TrimsTo third delimiter →
      delimiter ≠ [] →
      Delimits (some third) (some delimiter)

/-- A text denotes an expression; an index and a delimiter are given together or not at all. -/
inductive Denotes (cs : List Char) (e : ClaimsExpression) : Prop
  | intro {first second selection : List Char} {third : Option (List Char)} :
      IsCut cs first (some second) third →
      TrimsTo first ("Claims[".toList ++ e.claim.toList ++ [']']) →
      IsName e.claim.toList →
      TrimsTo second selection →
      Selects selection (e.piece.map (·.index)) →
      Delimits third (e.piece.map (·.delimiter.toList)) →
      Denotes cs e

section Parts

variable {cs first : List Char}
variable {second third : Option (List Char)}

/-- A text without a mark is not cut. -/
theorem cutPart_of_notMem (h : '>' ∉ cs) : cutPart cs = (cs, none) := by
  induction cs with
  | nil => rfl
  | cons c cs ih =>
      rw [List.mem_cons, not_or] at h
      rw [cutPart, if_neg (Ne.symm h.1), ih h.2]
      rfl

/-- A text is cut at its first mark. -/
theorem cutPart_append
    (h : '>' ∉ first)
    (rest : List Char) :
    cutPart (first ++ '>' :: rest) = (first, some rest) := by
  induction first with
  | nil => rfl
  | cons c first ih =>
      rw [List.mem_cons, not_or] at h
      rw [List.cons_append, cutPart, if_neg (Ne.symm h.1), ih h.2]
      rfl

/-- The parts of a text are those of its cut, trimmed. -/
theorem IsCut.parts_eq (h : IsCut cs first second third) :
    parts cs = (Text.trimChars first, second.map Text.trimChars, third.map Text.trimChars) := by
  cases h with
  | whole hfirst => simp [parts, cutPart_of_notMem hfirst]
  | once hfirst hsecond => simp [parts, cutPart_append hfirst, cutPart_of_notMem hsecond]
  | twice hfirst hsecond => simp [parts, cutPart_append hfirst, cutPart_append hsecond]

/-- A text has a mark and a part in front of the first one, or no mark. -/
theorem exists_first_mark (cs : List Char) :
    '>' ∉ cs ∨ ∃ first rest, cs = first ++ '>' :: rest ∧ '>' ∉ first := by
  by_cases h : '>' ∈ cs
  · obtain ⟨first, rest, hcs, hfirst⟩ := List.eq_append_cons_of_mem h
    exact .inr ⟨first, rest, hcs, hfirst⟩
  · exact .inl h

/-- Every text can be cut. -/
theorem exists_isCut (cs : List Char) : ∃ first second third, IsCut cs first second third := by
  rcases exists_first_mark cs with h | ⟨first, rest, rfl, hfirst⟩
  · exact ⟨cs, none, none, .whole h⟩
  · rcases exists_first_mark rest with h | ⟨second, third, rfl, hsecond⟩
    · exact ⟨first, some rest, none, .once hfirst h⟩
    · exact ⟨first, some second, some third, .twice hfirst hsecond⟩

theorem IsCut.notMem_first (h : IsCut cs first second third) : '>' ∉ first := by
  cases h with
  | whole hfirst => exact hfirst
  | once hfirst _ => exact hfirst
  | twice hfirst _ => exact hfirst

end Parts

section Reading

variable {cs inner opening claim : List Char}

theorem after?_eq_some_iff : after? opening cs = some inner ↔ cs = opening ++ inner := by
  induction opening generalizing cs with
  | nil => simp [after?]
  | cons o os ih =>
      cases cs with
      | nil => exact iff_of_false nofun nofun
      | cons c cs =>
          rw [after?]
          split
          · rename_i hoc
            rw [ih, hoc, List.cons_append, List.cons_inj_right]
          · rename_i hoc
            exact iff_of_false nofun fun h => hoc (List.cons.inj h).1.symm

theorem bracketed?_eq_some_iff :
    bracketed? opening cs = some inner ↔ cs = opening ++ inner ++ [']'] := by
  simp only [bracketed?, bind, Option.bind_eq_some_iff, after?_eq_some_iff]
  constructor
  · rintro ⟨rest, rfl, h⟩
    split at h
    · rename_i hlast
      cases h
      obtain ⟨front, rfl⟩ := List.getLast?_eq_some_iff.1 hlast
      rw [List.dropLast_concat, List.append_assoc]
    · cases h
  · rintro rfl
    exact ⟨inner ++ [']'], List.append_assoc _ _ _, by simp⟩

/-- The first part names a claim. -/
theorem claimName?_eq_some_iff :
    claimName? cs = some claim ↔ cs = "Claims[".toList ++ claim ++ [']'] ∧ IsName claim := by
  have hname : (claim.isEmpty || claim.any fun c => c = '[' || c = ']') = false ↔
      IsName claim := by
    rw [Bool.or_eq_false_iff, List.isEmpty_eq_false_iff, List.any_eq_false]
    constructor
    · rintro ⟨hne, hbrackets⟩
      exact ⟨hne, fun h => hbrackets _ h (by decide), fun h => hbrackets _ h (by decide)⟩
    · rintro ⟨hne, hopening, hclosing⟩
      refine ⟨hne, fun c hc hbracket => ?_⟩
      rw [Bool.or_eq_true, decide_eq_true_eq, decide_eq_true_eq] at hbracket
      rcases hbracket with rfl | rfl
      · exact hopening hc
      · exact hclosing hc
  simp only [claimName?, bind, Option.bind_eq_some_iff, bracketed?_eq_some_iff]
  constructor
  · rintro ⟨name, hcs, h⟩
    split at h
    · cases h
    · rename_i hgood
      cases h
      exact ⟨hcs, hname.1 (eq_false_of_ne_true hgood)⟩
  · rintro ⟨hcs, h⟩
    refine ⟨claim, hcs, ?_⟩
    rw [hname.2 h]
    rfl

/-- The second part selects. -/
theorem index?_eq_some_iff {index : Option Nat} : index? cs = some index ↔ Selects cs index := by
  unfold index?
  split
  · rename_i hall
    subst hall
    constructor
    · rintro ⟨⟩
      exact .all
    · intro h
      generalize hcs : "value".toList = cs at h
      cases h with
      | all => rfl
      | piece =>
          exact absurd (congrArg (List.take 6) hcs) (by simp)
  · rename_i hall
    simp only [bind, Option.bind_eq_some_iff, bracketed?_eq_some_iff, pure,
      Text.natural?_eq_some_iff]
    constructor
    · rintro ⟨inner, rfl, i, hi, ⟨⟩⟩
      exact .piece (Text.trimsTo_trimChars inner) hi
    · intro h
      cases h with
      | all => exact absurd rfl hall
      | piece hinner hi => exact ⟨_, rfl, _, hinner.trimChars_eq ▸ hi, rfl⟩

/-- The third part delimits, unless it is blank. -/
theorem filter_trimChars_eq_iff
    {third delimiter : Option (List Char)} :
    (third.map Text.trimChars).filter (fun d => ! d.isEmpty) = delimiter ↔
      Delimits third delimiter := by
  constructor
  · rintro rfl
    cases third with
    | none => exact .absent
    | some third =>
        have htrims := Text.trimsTo_trimChars third
        rw [Option.map_some]
        cases hrest : Text.trimChars third with
        | nil => exact .blank (hrest ▸ htrims)
        | cons c rest => exact .given (hrest ▸ htrims) nofun
  · intro h
    cases h with
    | absent => rfl
    | blank hthird =>
        rw [Option.map_some, hthird.trimChars_eq]
        rfl
    | given hthird hne =>
        rw [Option.map_some, hthird.trimChars_eq, Option.filter_some_pos]
        rwa [Bool.not_eq_true', List.isEmpty_eq_false_iff]

end Reading

section Expressions

variable {key : String}
variable {cs : List Char}
variable {e : ClaimsExpression}

/-- A text is read as what it denotes. -/
theorem read?_eq_some_iff : read? key cs = some e ↔ e.key = key ∧ Denotes cs e := by
  constructor
  · intro h
    obtain ⟨first, second, third, hcut⟩ := exists_isCut cs
    simp only [read?, hcut.parts_eq, bind, Option.bind_eq_some_iff, claimName?_eq_some_iff,
      index?_eq_some_iff] at h
    obtain ⟨claim, ⟨hfirst, hname⟩, _, hsecond, index, hindex, h⟩ := h
    obtain ⟨second, rfl, rfl⟩ := Option.map_eq_some_iff.1 hsecond
    have hfirst := Text.trimChars_eq_iff.1 hfirst
    have hdelimiter : Delimits third _ := filter_trimChars_eq_iff.1 rfl
    rw [← String.toList_ofList (l := claim)] at hfirst hname
    split at h
    · rename_i hnone
      cases h
      rw [hnone] at hdelimiter
      exact ⟨rfl, hcut, hfirst, hname, Text.trimsTo_trimChars second, hindex, hdelimiter⟩
    · rename_i i delimiter hsome
      cases h
      rw [hsome, ← String.toList_ofList (l := delimiter)] at hdelimiter
      exact ⟨rfl, hcut, hfirst, hname, Text.trimsTo_trimChars second, hindex, hdelimiter⟩
    · cases h
  · obtain ⟨key', claim, piece⟩ := e
    rintro ⟨rfl, hcut, hfirst, hname, hsecond, hindex, hdelimiter⟩
    simp only [read?, hcut.parts_eq, bind, Option.bind_eq_some_iff, claimName?_eq_some_iff,
      index?_eq_some_iff, Option.map_some]
    refine ⟨_, ⟨hfirst.trimChars_eq, hname⟩, _, rfl, _, hsecond.trimChars_eq ▸ hindex, ?_⟩
    rw [filter_trimChars_eq_iff.2 hdelimiter, String.ofList_toList]
    cases piece with
    | none => rfl
    | some p => simp [pure]

/-- The written form without a piece, in its two parts. -/
theorem toList_render_all (claim : String) :
    (render ⟨key, claim, none⟩).toList =
      ("Claims[".toList ++ claim.toList ++ [']'] ++ [' ']) ++ '>' :: (' ' :: "value".toList) := by
  simp [render, String.toList_append, toString]

/-- The written form with a piece, in its three parts. -/
theorem toList_render_piece
    (claim : String)
    (p : ClaimPiece) :
    (render ⟨key, claim, some p⟩).toList =
      ("Claims[".toList ++ claim.toList ++ [']'] ++ [' ']) ++
        '>' :: ((' ' :: ("value[".toList ++ Nat.toDigits 10 p.index ++ [']']) ++ [' ']) ++
          '>' :: (' ' :: p.delimiter.toList)) := by
  simp [render, String.toList_append, toString, Nat.toList_repr]

/-- What starts with no blank and ends with a bracket may have a blank behind it. -/
theorem trimsTo_bracketed
    {c : Char}
    (hc : isBlank c = false)
    (cs : List Char)
    {front back : List Char}
    (hfront : ∀ c ∈ front, isBlank c = true)
    (hback : ∀ c ∈ back, isBlank c = true) :
    TrimsTo (front ++ (c :: cs ++ [']']) ++ back) (c :: cs ++ [']']) := by
  refine (Text.trimsTo_self ?_ ?_).pad hfront hback
  · rintro _ ⟨⟩
    exact hc
  · rw [List.getLast?_concat]
    rintro _ ⟨⟩
    decide

/-- The second part selects the piece that it is written for. -/
theorem selects_toDigits
    {i : Nat}
    (h : i ≤ Text.max64) :
    Selects ("value[".toList ++ Nat.toDigits 10 i ++ [']']) (some i) := by
  have hdigits : ∀ c ∈ Nat.toDigits 10 i, isBlank c = false := fun c hc =>
    Text.not_isBlank_of_isDigit (Nat.isDigit_of_mem_toDigits (by decide) (by decide) hc)
  exact .piece
    (Text.trimsTo_self (fun c hc => hdigits c (List.mem_of_head? hc))
      (fun c hc => hdigits c (List.mem_of_getLast? hc)))
    (Text.isNumeral_toDigits h)

theorem Selects.le
    {i : Nat}
    (h : Selects cs (some i)) :
    i ≤ Text.max64 := by
  cases h with
  | piece _ hi => exact hi.le

theorem Delimits.trimsTo_self
    {third : Option (List Char)}
    {delimiter : List Char}
    (h : Delimits third (some delimiter)) :
    TrimsTo delimiter delimiter ∧ delimiter ≠ [] := by
  cases h with
  | given hthird hne => exact ⟨Text.trimsTo_self hthird.first hthird.last, hne⟩

/-- What a text denotes is denoted by its written form, too. -/
theorem Denotes.render (h : Denotes cs e) : Denotes e.render.toList e := by
  obtain ⟨hcut, hfirst, hname, _, hindex, hdelimiter⟩ := h
  have hblank : ∀ c ∈ [' '], isBlank c = true := List.forall_mem_singleton.2 rfl
  have hmark : '>' ∉ "Claims[".toList ++ e.claim.toList ++ [']'] ++ [' '] := by
    intro hmem
    rw [List.mem_append] at hmem
    rcases hmem with hmem | hmem
    · exact hcut.notMem_first (hfirst.mem hmem)
    · exact absurd hmem (by decide)
  have hnone : ∀ c ∈ ([] : List Char), isBlank c = true := nofun
  have hclaim : TrimsTo ("Claims[".toList ++ e.claim.toList ++ [']'] ++ [' '])
      ("Claims[".toList ++ e.claim.toList ++ [']']) :=
    trimsTo_bracketed (c := 'C') (by decide) ("laims[".toList ++ e.claim.toList) hnone hblank
  obtain ⟨key, claim, _ | p⟩ := e
  · rw [toList_render_all]
    exact ⟨.once hmark (by decide), hclaim, hname, Text.trimChars_eq_iff.1 (by decide), .all,
      .absent⟩
  · obtain ⟨hself, hne⟩ := hdelimiter.trimsTo_self
    have hdigits : '>' ∉ Nat.toDigits 10 p.index := fun hmem =>
      absurd (Nat.isDigit_of_mem_toDigits (by decide) (by decide) hmem) (by decide)
    rw [toList_render_piece]
    refine ⟨.twice hmark ?_, hclaim, hname, ?_, selects_toDigits hindex.le, ?_⟩
    · simp [hdigits]
    · exact trimsTo_bracketed (c := 'v') (by decide) ("alue[".toList ++ Nat.toDigits 10 p.index)
        hblank hblank
    · have hpadded := hself.pad hblank hnone
      rw [List.append_nil] at hpadded
      exact .given hpadded hne

end Expressions

/--
A text is read for a key as the expression that it denotes, and is refused with itself and the key
in the complaint if it denotes none; and what was read is read again from its written form.
-/
theorem parse_iff_denotes (key expression : String) :
    (∀ e, parse key expression = .ok e ↔ e.key = key ∧ Denotes expression.toList e) ∧
    ((¬ ∃ e, Denotes expression.toList e) →
      parse key expression =
        .error (.config s!"invalid claims expression for '{key}': '{expression}'")) ∧
    ∀ e, parse key expression = .ok e → parse key e.render = .ok e := by
  have hparse : ∀ s e, parse key s = .ok e ↔ e.key = key ∧ Denotes s.toList e := by
    intro s e
    rw [← read?_eq_some_iff, parse]
    cases read? key s.toList <;> simp
  refine ⟨hparse expression, fun hnone => ?_, fun e he => ?_⟩
  · cases hread : read? key expression.toList with
    | none => rw [parse, hread]
    | some e => exact absurd ⟨e, (read?_eq_some_iff.1 hread).2⟩ hnone
  · obtain ⟨hkey, hdenotes⟩ := (hparse expression e).1 he
    exact (hparse e.render e).2 ⟨hkey, hdenotes.render⟩

/--
A delimiter with the mark itself, blanks around all parts, and a plus sign in front of the index.
-/
example :
    read? "dc" " Claims[a b]>\tvalue[ +007 ] >  >| > ".toList =
      some ⟨"dc", "a b", some ⟨7, ">| >"⟩⟩ := by
  decide +kernel

end ClaimsExpression
end ApiGateway
