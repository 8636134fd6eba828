import ApiGateway.Proofs.Route.Reading
import Mathlib.Data.List.Lex

/-!
# How paths are matched

A path matches a template if it can be cut into the literal runs of the template with values without
line ends between them. Of all ways to cut it the search takes the greatest: at the first
placeholder where another way gives a value of another length, that value is shorter.

The induction follows the search: a placeholder first tries to take one more character, so a value
that goes on is found before one that stops.

Main statement: `match_iff_greatest_cut`.
-/

namespace ApiGateway

namespace Template

/-- A text cut into the literal pieces of a template and values without line ends. -/
inductive Cuts : List Segment → List Char → List (List Char) → Prop
  | done : Cuts [] [] []
  | literal
      {text : String}
      {segs : List Segment}
      {cs : List Char}
      {values : List (List Char)} :
      Cuts segs cs values →
      Cuts (.literal text :: segs) (text.toList ++ cs) values
  | value
      {name : String}
      {segs : List Segment}
      {value cs : List Char}
      {values : List (List Char)} :
      '\n' ∉ value →
      Cuts segs cs values →
      Cuts (.placeholder name :: segs) (value ++ cs) (value :: values)

/-- At the first of the values that differ in length, those of the first row are shorter. -/
def IsShorter (others values : List (List Char)) : Prop :=
  List.Lex (· < ·) (others.map List.length) (values.map List.length)

section Search

variable {name : String}
variable {segs : List Segment}
variable {c : Char}
variable {cs : List Char}
variable {values others : List (List Char)}

theorem Cuts.exists_value
    (h : Cuts (.placeholder name :: segs) cs values) :
    ∃ value rest others, cs = value ++ rest ∧ values = value :: others ∧ '\n' ∉ value ∧
      Cuts segs rest others := by
  cases h with
  | value hvalue hrest => exact ⟨_, _, _, rfl, rfl, hvalue, hrest⟩

/-- The first value takes a character more. -/
theorem Cuts.extend
    (hc : c ≠ '\n')
    (h : Cuts (.placeholder name :: segs) cs values) :
    Cuts (.placeholder name :: segs) (c :: cs) (Template.extend c values) := by
  obtain ⟨value, rest, others, rfl, rfl, hvalue, hrest⟩ := h.exists_value
  exact .value (List.not_mem_cons_of_ne_of_not_mem (Ne.symm hc) hvalue) hrest

/-- The values that are found cut the text. -/
theorem cuts_of_bindFrom (h : bindFrom segs cs = some values) : Cuts segs cs values := by
  fun_induction bindFrom segs cs generalizing values with
  | case1 =>
      cases h
      exact .done
  | case2 => cases h
  | case3 text segs cs rest hrest ih =>
      obtain rfl := afterLiteral?_eq_some.1 hrest
      exact .literal (ih h)
  | case4 => cases h
  | case5 name segs ih =>
      obtain ⟨values, hvalues, rfl⟩ := Option.map_eq_some_iff.1 h
      exact .value List.not_mem_nil (ih hvalues)
  | case6 name segs c cs ihmore ihstop =>
      rcases Option.or_eq_some_iff.1 h with hmore | ⟨_, hstop⟩
      · obtain ⟨values, hvalues, rfl⟩ := Option.map_eq_some_iff.1 hmore
        split at hvalues
        · cases hvalues
        · exact (ihmore hvalues).extend ‹_›
      · obtain ⟨values, hvalues, rfl⟩ := Option.map_eq_some_iff.1 hstop
        exact .value List.not_mem_nil (ihstop hvalues)

/-- A value that stops at once is shorter than one that takes a character. -/
theorem isShorter_extend
    (hcut : Cuts (.placeholder name :: segs) cs values) :
    IsShorter ([] :: others) (Template.extend c values) := by
  obtain ⟨value, _, _, _, rfl, _⟩ := hcut.exists_value
  exact .rel (Nat.succ_pos _)

/-- Two rows of values compare as before when both first values take a character more. -/
theorem IsShorter.extend
    {value : List Char}
    (hcut : Cuts (.placeholder name :: segs) cs values)
    (h : IsShorter (value :: others) values) :
    IsShorter ((c :: value) :: others) (Template.extend c values) := by
  obtain ⟨value', _, _, _, rfl, _⟩ := hcut.exists_value
  rcases List.cons_lex_cons_iff.1 h with hlt | ⟨heq, hrest⟩
  · exact .rel (Nat.succ_lt_succ hlt)
  · exact List.cons_lex_cons_iff.2 (.inr ⟨congrArg (· + 1) heq, hrest⟩)

/-- Where a text can be cut, values are found, and any other ones are shorter. -/
theorem exists_bindFrom_of_cuts (h : Cuts segs cs others) :
    ∃ values, bindFrom segs cs = some values ∧ (others = values ∨ IsShorter others values) := by
  induction segs, cs using bindFrom.induct generalizing others with
  | case1 =>
      cases h
      exact ⟨[], by rw [bindFrom], .inl rfl⟩
  | case2 => cases h
  | case3 text segs cs rest hrest ih =>
      rw [bindFrom, hrest]
      cases h with
      | @literal _ _ rest' _ h =>
          rw [afterLiteral?_eq_some, List.append_cancel_left_eq] at hrest
          exact ih (hrest ▸ h)
  | case4 text segs cs hnone =>
      cases h with
      | @literal _ _ rest _ h =>
          rw [afterLiteral?_eq_some.2 rfl] at hnone
          cases hnone
  | case5 name segs ih =>
      obtain ⟨value, rest, others, hcs, rfl, _, hrest⟩ := h.exists_value
      obtain ⟨rfl, rfl⟩ := List.append_eq_nil_iff.1 hcs.symm
      obtain ⟨values, hvalues, hother⟩ := ih hrest
      exact ⟨[] :: values, by rw [bindFrom, hvalues]; rfl, hother.imp (congrArg _) List.Lex.cons⟩
  | case6 name segs c cs ihmore ihstop =>
      rw [bindFrom]
      obtain ⟨value, rest, others, hcs, rfl, hvalue, hrest⟩ := h.exists_value
      cases value with
      | nil =>
          obtain rfl : c :: cs = rest := hcs
          obtain ⟨values, hvalues, hother⟩ := ihstop hrest
          cases hmore : (if c = '\n' then none else bindFrom (.placeholder name :: segs) cs) with
          | none =>
              exact ⟨[] :: values, by rw [hvalues]; rfl, hother.imp (congrArg _) List.Lex.cons⟩
          | some longer =>
              split at hmore
              · cases hmore
              · exact ⟨_, rfl, .inr (isShorter_extend (cuts_of_bindFrom hmore))⟩
      | cons d value =>
          obtain ⟨rfl, rfl⟩ := List.cons.inj hcs
          rw [List.mem_cons, not_or] at hvalue
          obtain ⟨values, hvalues, hother⟩ := ihmore (.value hvalue.2 hrest)
          rw [if_neg (Ne.symm hvalue.1), hvalues]
          refine ⟨_, rfl, hother.imp ?_ (IsShorter.extend (cuts_of_bindFrom hvalues))⟩
          rintro rfl
          rfl

/-- What is found is the greatest of all ways to cut the text. -/
theorem bindFrom_eq_some_iff :
    bindFrom segs cs = some values ↔
      Cuts segs cs values ∧
        ∀ others, Cuts segs cs others → others = values ∨ IsShorter others values := by
  constructor
  · intro h
    refine ⟨cuts_of_bindFrom h, fun others hothers => ?_⟩
    obtain ⟨values', hvalues', hother⟩ := exists_bindFrom_of_cuts hothers
    obtain rfl := Option.some.inj (h.symm.trans hvalues')
    exact hother
  · rintro ⟨hcut, hgreatest⟩
    obtain ⟨found, hfound, heq | hshorter⟩ := exists_bindFrom_of_cuts hcut
    · rw [hfound, heq]
    · rcases hgreatest found (cuts_of_bindFrom hfound) with rfl | hshorter'
      · exact hfound
      · exact absurd hshorter' (List.lex_asymm (fun h => Nat.lt_asymm h) hshorter)

end Search

/-- A path that is made of the literal runs of a template with values without line ends between. -/
structure IsCut (runs : List String) (path : String) (values : List String) : Prop where
  length : runs.length = values.length + 1
  inLine : ∀ value ∈ values, '\n' ∉ value.toList
  woven : weave runs values = path

/-- The cut of a path whose values have the greatest lengths, the first of them first. -/
structure IsGreatestCut (runs : List String) (path : String) (values : List String) : Prop where
  cut : IsCut runs path values
  greatest : ∀ others, IsCut runs path others →
    others = values ∨
      List.Lex (· < ·) (others.map String.length) (values.map String.length)

section Runs

variable {runs : List String}
variable {path : String}
variable {segs : List Segment}

/-- Text in front of the runs is text in front of the path. -/
theorem isCut_modifyHead_iff
    {text : String}
    {values : List String}
    (hruns : runs ≠ []) :
    IsCut (runs.modifyHead (text ++ ·)) path values ↔
      ∃ rest, path = text ++ rest ∧ IsCut runs rest values := by
  constructor
  · rintro ⟨hlength, hinLine, rfl⟩
    rw [List.length_modifyHead] at hlength
    exact ⟨_, weave_modifyHead text hruns values, hlength, hinLine, rfl⟩
  · rintro ⟨_, rfl, hlength, hinLine, rfl⟩
    exact ⟨by rw [List.length_modifyHead, hlength], hinLine, weave_modifyHead text hruns values⟩

/-- A placeholder in front of the runs takes a value in front of the path. -/
theorem isCut_cons_iff
    {values : List String}
    (hruns : runs ≠ []) :
    IsCut ("" :: runs) path values ↔
      ∃ value rest others, values = value :: others ∧ path = value ++ rest ∧
        '\n' ∉ value.toList ∧ IsCut runs rest others := by
  constructor
  · rintro ⟨hlength, hinLine, rfl⟩
    cases values with
    | nil => exact absurd (List.length_eq_zero_iff.1 (Nat.succ.inj hlength)) hruns
    | cons value others =>
        obtain ⟨hvalue, hothers⟩ := List.forall_mem_cons.1 hinLine
        refine ⟨value, _, others, rfl, ?_, hvalue, Nat.succ.inj hlength, hothers, rfl⟩
        rw [weave, String.empty_append]
  · rintro ⟨value, _, others, rfl, rfl, hvalue, hlength, hothers, rfl⟩
    refine ⟨congrArg (· + 1) hlength, List.forall_mem_cons.2 ⟨hvalue, hothers⟩, ?_⟩
    rw [weave, String.empty_append]

/-- Cutting by the pieces of a template is cutting by its runs. -/
theorem cuts_iff_isCut
    {cs : List Char}
    {values : List (List Char)} :
    Cuts segs cs values ↔
      IsCut (literalRuns segs) (String.ofList cs) (values.map String.ofList) := by
  induction segs generalizing cs values with
  | nil =>
      constructor
      · rintro ⟨⟩
        exact ⟨rfl, List.forall_mem_nil _, rfl⟩
      · rintro ⟨hlength, _, hwoven⟩
        obtain rfl := List.map_eq_nil_iff.1 (List.length_eq_zero_iff.1 (Nat.succ.inj hlength).symm)
        obtain rfl := String.ofList_eq_empty_iff.1 hwoven.symm
        exact .done
  | cons seg segs ih =>
      cases seg with
      | literal text =>
          rw [literalRuns, isCut_modifyHead_iff (literalRuns_ne_nil segs)]
          constructor
          · rintro ⟨⟩
            rename_i rest hrest
            exact ⟨_, by rw [String.ofList_append, String.ofList_toList], ih.1 hrest⟩
          · rintro ⟨rest, hpath, hrest⟩
            rw [← String.ofList_toList (s := rest)] at hpath hrest
            rw [← String.ofList_toList (s := text), ← String.ofList_append,
              String.ofList_inj] at hpath
            exact hpath ▸ .literal (ih.2 hrest)
      | placeholder name =>
          rw [literalRuns, isCut_cons_iff (literalRuns_ne_nil segs)]
          constructor
          · intro h
            obtain ⟨value, rest, others, rfl, rfl, hvalue, hrest⟩ := h.exists_value
            exact ⟨_, _, _, rfl, String.ofList_append, by rwa [String.toList_ofList], ih.1 hrest⟩
          · rintro ⟨value, rest, others, hvalues, hpath, hvalue, hrest⟩
            obtain ⟨chars, values, rfl, rfl, rfl⟩ := List.map_eq_cons_iff.1 hvalues
            rw [← String.ofList_toList (s := rest)] at hpath hrest
            rw [← String.ofList_append, String.ofList_inj] at hpath
            rw [String.toList_ofList] at hvalue
            exact hpath ▸ .value hvalue (ih.2 hrest)

theorem exists_map_ofList (texts : List String) :
    ∃ css : List (List Char), css.map String.ofList = texts :=
  ⟨texts.map String.toList, by simp⟩

/-- The search finds the greatest cut. -/
theorem bindFrom_iff_isGreatestCut
    {values : List (List Char)} :
    bindFrom segs path.toList = some values ↔
      IsGreatestCut (literalRuns segs) path (values.map String.ofList) := by
  have hlengths : ∀ vs : List (List Char),
      (vs.map String.ofList).map String.length = vs.map List.length := fun vs => by
    rw [List.map_map]
    exact List.map_congr_left fun v _ => String.length_ofList
  rw [bindFrom_eq_some_iff, cuts_iff_isCut, String.ofList_toList]
  constructor
  · rintro ⟨hcut, hgreatest⟩
    refine ⟨hcut, fun others hothers => ?_⟩
    obtain ⟨others, rfl⟩ := exists_map_ofList others
    rw [hlengths, hlengths]
    rw [← String.ofList_toList (s := path), ← cuts_iff_isCut] at hothers
    exact (hgreatest others hothers).imp (congrArg _) id
  · rintro ⟨hcut, hgreatest⟩
    refine ⟨hcut, fun others hothers => ?_⟩
    rw [cuts_iff_isCut, String.ofList_toList] at hothers
    have hother := hgreatest _ hothers
    rw [hlengths, hlengths] at hother
    exact hother.imp (List.map_injective_iff.2 fun _ _ => String.ofList_inj.1).eq_iff.1 id

/-- The search finds something where there is a cut at all. -/
theorem exists_bindFrom_of_isCut
    {values : List String}
    (h : IsCut (literalRuns segs) path values) :
    ∃ found, bindFrom segs path.toList = some found := by
  obtain ⟨values, rfl⟩ := exists_map_ofList values
  rw [← String.ofList_toList (s := path), ← cuts_iff_isCut] at h
  obtain ⟨found, hfound, _⟩ := exists_bindFrom_of_cuts h
  exact ⟨found, hfound⟩

end Runs

section Matches

variable {t : Template}
variable {path : String}
variable {m : PathMatch}

/--
A match has the whole path and, under the names of the template, the values of a greatest cut.
-/
theorem match?_eq_some_iff :
    t.match? path = some m ↔
      m.matched = path ∧
      m.bindings.map (·.name) = t.placeholders ∧
      IsGreatestCut (literalRuns t.segments) path (m.bindings.map (·.value)) := by
  rw [match?, bind?_eq_bindFrom, Option.map_eq_some_iff]
  constructor
  · rintro ⟨values, hvalues, rfl⟩
    have hgreatest := bindFrom_iff_isGreatestCut.1 hvalues
    have hlength : t.placeholders.length = values.length := by
      have hcut := hgreatest.cut.length
      rw [length_literalRuns, List.length_map] at hcut
      exact Nat.succ.inj hcut
    refine ⟨rfl, ?_, ?_⟩
    · rw [List.map_map]
      exact List.map_fst_zip (Nat.le_of_eq hlength)
    · have hsnd : (t.placeholders.zip values).map Prod.snd = values :=
        List.map_snd_zip (Nat.le_of_eq hlength.symm)
      have htexts := congrArg (List.map String.ofList) hsnd
      rw [List.map_map] at htexts ⊢
      exact htexts ▸ hgreatest
  · rintro ⟨rfl, hnames, hgreatest⟩
    refine ⟨m.bindings.map (·.value.toList), bindFrom_iff_isGreatestCut.2 ?_, ?_⟩
    · simpa [Function.comp_def] using hgreatest
    · rw [← hnames, List.zip_map', List.map_map]
      simp [Function.comp_def]

theorem isMatch_eq_isSome (t : Template) (path : String) :
    t.isMatch path = (t.match? path).isSome := by
  rw [isMatch, match?, Option.isSome_map]

/-- A path matches if and only if it can be cut. -/
theorem isMatch_iff :
    t.isMatch path = true ↔ ∃ values, IsCut (literalRuns t.segments) path values := by
  rw [isMatch, bind?_eq_bindFrom, Option.isSome_iff_exists]
  constructor
  · rintro ⟨values, hvalues⟩
    exact ⟨_, (bindFrom_iff_isGreatestCut.1 hvalues).cut⟩
  · rintro ⟨values, hcut⟩
    exact exists_bindFrom_of_isCut hcut

/--
A template is spelled by its literal runs `l₀, …, lₙ` and the names of its placeholders. A path
matches it just when it is `l₀ v₁ l₁ … vₙ lₙ` for values without line ends. Then the whole path is
matched, and the bindings are, under the names in their order, the values of greatest lengths.
-/
theorem match_iff_greatest_cut
    {s : String}
    {t : Template}
    (h : compile s = .ok t) :
    (IsSpelling (literalRuns t.segments) t.placeholders ∧
      s = weave (literalRuns t.segments) (t.placeholders.map braced)) ∧
    ∀ path,
      (t.isMatch path = true ↔ ∃ values, IsCut (literalRuns t.segments) path values) ∧
      ((∃ m, t.match? path = some m) ↔ ∃ values, IsCut (literalRuns t.segments) path values) ∧
      ∀ m, t.match? path = some m ↔
        m.matched = path ∧
        m.bindings.map (·.name) = t.placeholders ∧
        IsGreatestCut (literalRuns t.segments) path (m.bindings.map (·.value)) := by
  refine ⟨spelling_of_tokenize (compile_eq_ok_iff.1 h).2, fun path => ⟨isMatch_iff, ?_, fun m =>
    match?_eq_some_iff⟩⟩
  rw [← Option.isSome_iff_exists, ← isMatch_eq_isSome]
  exact isMatch_iff

/-- A template with three placeholders, the last two of which touch. -/
def adjoining : Template :=
  ⟨"/{from}-{to}{rest}",
    [.literal "/", .placeholder "from", .literal "-", .placeholder "to", .placeholder "rest"]⟩

/-- Of two ways to cut a path, the one is found whose first value holds the first mark as well. -/
theorem match_iff_greatest_cut_adjoining :
    compile "/{from}-{to}{rest}" = .ok adjoining ∧
    IsCut ["/", "-", "", ""] "/a-b-c" ["a", "b", "-c"] ∧
    adjoining.isMatch "/a-b-c" = true ∧
    IsGreatestCut ["/", "-", "", ""] "/a-b-c" ["a-b", "c", ""] ∧
    adjoining.isMatch "/a-b\n" = false := by
  have hcompile : compile "/{from}-{to}{rest}" = .ok adjoining := rfl
  have hruns : literalRuns adjoining.segments = ["/", "-", "", ""] := by decide
  obtain ⟨_, hpaths⟩ := match_iff_greatest_cut hcompile
  rw [hruns] at hpaths
  have hcut : IsCut ["/", "-", "", ""] "/a-b-c" ["a", "b", "-c"] :=
    ⟨rfl, by decide, by decide⟩
  have hfound : adjoining.match? "/a-b-c" =
      some ⟨[⟨"from", "a-b"⟩, ⟨"to", "c"⟩, ⟨"rest", ""⟩], "/a-b-c"⟩ := by
    decide +kernel
  exact ⟨hcompile, hcut, (hpaths "/a-b-c").1.2 ⟨_, hcut⟩, (((hpaths "/a-b-c").2.2 _).1 hfound).2.2,
    by decide +kernel⟩

end Matches

end Template
end ApiGateway
