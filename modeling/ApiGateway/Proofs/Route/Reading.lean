import ApiGateway.Route.Template

/-!
# How templates are read

A template is text without braces with placeholders between: names in braces that are not empty
and hold neither braces nor slashes. Reading it gives the one row of pieces in which no text is
empty and no two texts touch, and writes back to the template.

The pieces are the same as the literal runs of the template, one more than it has placeholders, and
the names between them. For every row of runs and names that may stand in a template there is one.

Main statements: `tokenize_eq_ok_iff`, `spelling_of_tokenize`, `exists_tokenize_of_isSpelling`.
-/

namespace ApiGateway

/-- A result that was changed on its way was there before. -/
theorem map_eq_ok
    {ε α β : Type}
    {x : Except ε α}
    {f : α → β}
    {b : β} :
    x.map f = .ok b ↔ ∃ a, x = .ok a ∧ f a = b := by
  cases x with
  | error e => exact iff_of_false nofun fun ⟨_, h, _⟩ => nomatch h
  | ok a =>
      constructor
      · rintro ⟨⟩
        exact ⟨a, rfl, rfl⟩
      · rintro ⟨_, ⟨⟩, rfl⟩
        rfl

namespace Template

/-- Text that may stand outside the placeholders of a template. -/
def IsPlain (s : String) : Prop :=
  '\x7b' ∉ s.toList ∧ '\x7d' ∉ s.toList

/-- Text that may stand between the braces of a placeholder. -/
structure IsPlaceholderName (s : String) : Prop where
  nonempty : s ≠ ""
  plain : IsPlain s
  noSlash : '/' ∉ s.toList

/-- Whether the first of some pieces is literal text. -/
def BeginsLiteral : List Segment → Prop
  | .literal _ :: _ => True
  | _ => False

/-- Pieces that fit a template: no literal text is empty, and no two of them touch. -/
def IsTight : List Segment → Prop
  | [] => True
  | .literal text :: segs => text ≠ "" ∧ IsPlain text ∧ ¬ BeginsLiteral segs ∧ IsTight segs
  | .placeholder name :: segs => IsPlaceholderName name ∧ IsTight segs

section Names

theorem isPlaceholderName_of_isName
    {cs : List Char}
    (h : isName cs = true)
    (hclose : '\x7d' ∉ cs) :
    IsPlaceholderName (String.ofList cs) := by
  rw [isName, Bool.and_eq_true, Bool.not_eq_true', List.isEmpty_eq_false_iff,
    List.all_eq_true] at h
  obtain ⟨hne, hall⟩ := h
  have hchars : ∀ c ∈ cs, c ≠ '\x7b' ∧ c ≠ '/' := fun c hc => by simpa using hall c hc
  refine ⟨fun hempty => hne (String.ofList_eq_empty_iff.1 hempty), ⟨?_, ?_⟩, ?_⟩ <;>
    rw [String.toList_ofList]
  · exact fun hmem => (hchars _ hmem).1 rfl
  · exact hclose
  · exact fun hmem => (hchars _ hmem).2 rfl

theorem IsPlaceholderName.isName
    {s : String}
    (h : IsPlaceholderName s) :
    isName s.toList = true := by
  rw [Template.isName, Bool.and_eq_true, Bool.not_eq_true', List.isEmpty_eq_false_iff,
    List.all_eq_true]
  refine ⟨fun hempty => h.nonempty (String.toList_eq_nil_iff.1 hempty), fun c hc => ?_⟩
  have hopen : c ≠ '\x7b' := ne_of_mem_of_not_mem hc h.plain.1
  have hslash : c ≠ '/' := ne_of_mem_of_not_mem hc h.noSlash
  simp [hopen, hslash]

end Names

section Writing

variable {rev cs : List Char}
variable {segs : List Segment}

@[simp] theorem render_cons (seg : Segment) (segs : List Segment) :
    render (seg :: segs) = seg.render ++ render segs := by
  rw [render, List.map_cons, String.join_cons, render]

theorem toList_render_placeholder (name : String) :
    (Segment.placeholder name).render.toList = '\x7b' :: (name.toList ++ ['\x7d']) := by
  rw [Segment.render, String.toList_append, String.toList_append, List.append_assoc]
  rfl

theorem render_consLiteral :
    render (consLiteral rev segs) = String.ofList rev.reverse ++ render segs := by
  unfold consLiteral
  split
  · rename_i hrev
    rw [List.isEmpty_iff.1 hrev, List.reverse_nil, String.ofList_nil, String.empty_append]
  · rw [render_cons, Segment.render]

theorem isTight_consLiteral
    (hrev : IsPlain (String.ofList rev.reverse))
    (hfirst : ¬ BeginsLiteral segs)
    (h : IsTight segs) :
    IsTight (consLiteral rev segs) := by
  unfold consLiteral
  split
  · exact h
  · rename_i hne
    refine ⟨fun hempty => hne ?_, hrev, hfirst, h⟩
    rw [List.isEmpty_iff, ← List.reverse_eq_nil_iff]
    exact String.ofList_eq_empty_iff.1 hempty

end Writing

section Reading

/-- What a reader has passed since the last complete piece. -/
def Mode.passed : Mode → List Char
  | .literal rev => rev.reverse
  | .name rev => '\x7b' :: rev.reverse

/-- A reader keeps no brace of its own kind. -/
def Mode.IsSound : Mode → Prop
  | .literal rev => IsPlain (String.ofList rev.reverse)
  | .name rev => '\x7d' ∉ rev

/--
What was read is tight, and written it is all that the reader has passed and still had to read.
-/
theorem written_of_tokenizeFrom
    {mode : Mode}
    {cs : List Char}
    {segs : List Segment}
    (hmode : mode.IsSound)
    (h : tokenizeFrom mode cs = .ok segs) :
    IsTight segs ∧
    (render segs).toList = mode.passed ++ cs ∧
    ∀ rev, mode = .name rev → ¬ BeginsLiteral segs := by
  fun_induction tokenizeFrom mode cs generalizing segs with
  | case1 rev =>
      cases h
      refine ⟨isTight_consLiteral hmode nofun trivial, ?_, nofun⟩
      rw [render_consLiteral, String.toList_append, String.toList_ofList]
      rfl
  | case2 rev cs => cases h
  | case3 rev cs _ ih =>
      obtain ⟨rest, hrest, rfl⟩ := map_eq_ok.1 h
      obtain ⟨htight, hwritten, hfirst⟩ := ih List.not_mem_nil hrest
      refine ⟨isTight_consLiteral hmode (hfirst [] rfl) htight, ?_, nofun⟩
      rw [render_consLiteral, String.toList_append, String.toList_ofList, hwritten]
      rfl
  | case4 rev c cs hclose hopen ih =>
      have hsound : Mode.IsSound (.literal (c :: rev)) := by
        simp only [Mode.IsSound, IsPlain, String.toList_ofList, List.mem_reverse] at hmode
        simp [Mode.IsSound, IsPlain, hmode, Ne.symm hclose, Ne.symm hopen]
      obtain ⟨htight, hwritten, _⟩ := ih hsound h
      refine ⟨htight, ?_, nofun⟩
      rw [hwritten, Mode.passed, Mode.passed, List.reverse_cons, List.append_assoc,
        List.singleton_append]
  | case5 rev => cases h
  | case6 rev cs hname ih =>
      obtain ⟨rest, hrest, rfl⟩ := map_eq_ok.1 h
      obtain ⟨htight, hwritten, _⟩ := ih ⟨List.not_mem_nil, List.not_mem_nil⟩ hrest
      have hplaceholder := isPlaceholderName_of_isName hname
        fun hmem => hmode (List.mem_reverse.1 hmem)
      refine ⟨⟨hplaceholder, htight⟩, ?_, fun _ _ => id⟩
      rw [render_cons, String.toList_append, toList_render_placeholder, hwritten,
        String.toList_ofList]
      simp [Mode.passed]
  | case7 rev cs hname => cases h
  | case8 rev c cs hclose ih =>
      have hsound : Mode.IsSound (.name (c :: rev)) := by
        rw [Mode.IsSound, List.mem_cons, not_or]
        exact ⟨Ne.symm hclose, hmode⟩
      obtain ⟨htight, hwritten, hfirst⟩ := ih hsound h
      refine ⟨htight, ?_, fun _ _ => hfirst _ rfl⟩
      rw [hwritten, Mode.passed, Mode.passed, List.reverse_cons, List.cons_append,
        List.append_assoc, List.singleton_append, List.cons_append]

/-- Text without braces is passed as it is. -/
theorem tokenizeFrom_plain
    (rev : List Char)
    {text : List Char}
    (hplain : IsPlain (String.ofList text))
    (cs : List Char) :
    tokenizeFrom (.literal rev) (text ++ cs) = tokenizeFrom (.literal (text.reverse ++ rev)) cs := by
  rw [IsPlain, String.toList_ofList] at hplain
  induction text generalizing rev with
  | nil => rfl
  | cons c text ih =>
      simp only [List.mem_cons, not_or] at hplain
      rw [List.cons_append, tokenizeFrom, if_neg (Ne.symm hplain.2.1), if_neg (Ne.symm hplain.1.1),
        ih (c :: rev) ⟨hplain.1.2, hplain.2.2⟩, List.reverse_cons, List.append_assoc,
        List.singleton_append]

/-- A name is passed up to its closing brace. -/
theorem tokenizeFrom_name
    (rev : List Char)
    {name : List Char}
    (hclose : '\x7d' ∉ name)
    (cs : List Char) :
    tokenizeFrom (.name rev) (name ++ cs) = tokenizeFrom (.name (name.reverse ++ rev)) cs := by
  induction name generalizing rev with
  | nil => rfl
  | cons c name ih =>
      rw [List.mem_cons, not_or] at hclose
      rw [List.cons_append, tokenizeFrom, if_neg (Ne.symm hclose.1), ih (c :: rev) hclose.2,
        List.reverse_cons, List.append_assoc, List.singleton_append]

/-- A placeholder ends the text in front of it. -/
theorem tokenizeFrom_placeholder
    (rev : List Char)
    {name : String}
    (hname : IsPlaceholderName name)
    (cs : List Char) :
    tokenizeFrom (.literal rev) ((Segment.placeholder name).render.toList ++ cs) =
      (tokenizeFrom (.literal []) cs).map fun segs =>
        consLiteral rev (.placeholder name :: segs) := by
  have hread : tokenizeFrom (.name name.toList.reverse) ('\x7d' :: cs) =
      (tokenizeFrom (.literal []) cs).map (.placeholder name :: ·) := by
    rw [tokenizeFrom, if_pos rfl, List.reverse_reverse, if_pos hname.isName, String.ofList_toList]
  rw [toList_render_placeholder, List.cons_append, List.append_assoc, List.singleton_append,
    tokenizeFrom, if_neg (by decide), if_pos rfl, tokenizeFrom_name [] hname.plain.2,
    List.append_nil, hread]
  cases tokenizeFrom (.literal []) cs <;> rfl

/-- Tight pieces are read from their written form, behind text that does not touch theirs. -/
theorem tokenizeFrom_render
    {segs : List Segment}
    (htight : IsTight segs)
    {rev : List Char}
    (hfirst : rev = [] ∨ ¬ BeginsLiteral segs) :
    tokenizeFrom (.literal rev) (render segs).toList = .ok (consLiteral rev segs) := by
  induction segs generalizing rev with
  | nil => rfl
  | cons seg segs ih =>
      rw [render_cons, String.toList_append]
      cases seg with
      | literal text =>
          obtain ⟨hne, hplain, hnext, htight⟩ := htight
          obtain rfl := hfirst.resolve_right fun h => h trivial
          have htext : text.toList.isEmpty = false := by
            rw [List.isEmpty_eq_false_iff]
            exact fun hempty => hne (String.toList_eq_nil_iff.1 hempty)
          rw [Segment.render, tokenizeFrom_plain [] (by rwa [String.ofList_toList]),
            List.append_nil, ih htight (.inr hnext)]
          simp [consLiteral, htext]
      | placeholder name =>
          obtain ⟨hname, htight⟩ := htight
          rw [tokenizeFrom_placeholder rev hname, ih htight (.inl rfl)]
          rfl

/-- A template is read as the tight pieces that it is written of. -/
theorem tokenize_eq_ok_iff
    {s : String}
    {segs : List Segment} :
    tokenize s = .ok segs ↔ IsTight segs ∧ render segs = s := by
  constructor
  · intro h
    have hsound : Mode.IsSound (.literal []) := ⟨List.not_mem_nil, List.not_mem_nil⟩
    obtain ⟨htight, hwritten, _⟩ := written_of_tokenizeFrom hsound h
    exact ⟨htight, String.toList_inj.1 hwritten⟩
  · rintro ⟨htight, rfl⟩
    rw [tokenize, tokenizeFrom_render htight (.inl rfl)]
    rfl

end Reading

section Runs

/--
The literal text in front of the first placeholder, between placeholders, and behind the last.
-/
def literalRuns : List Segment → List String
  | [] => [""]
  | .literal text :: segs => (literalRuns segs).modifyHead (text ++ ·)
  | .placeholder _ :: segs => "" :: literalRuns segs

def names (segs : List Segment) : List String :=
  segs.filterMap Segment.name?

/-- A text that has values between its runs, one behind each run but the last. -/
def weave : List String → List String → String
  | [], _ => ""
  | run :: _, [] => run
  | run :: runs, value :: values => run ++ value ++ weave runs values

/-- The written form of the placeholder of a name. -/
def braced (name : String) : String :=
  (Segment.placeholder name).render

/-- Runs and names that make up a template. -/
structure IsSpelling (runs names : List String) : Prop where
  length : runs.length = names.length + 1
  plain : ∀ run ∈ runs, IsPlain run
  named : ∀ name ∈ names, IsPlaceholderName name

variable {runs : List String}
variable {segs : List Segment}

@[simp] theorem names_literal (text : String) (segs : List Segment) :
    names (.literal text :: segs) = names segs :=
  rfl

@[simp] theorem names_placeholder (name : String) (segs : List Segment) :
    names (.placeholder name :: segs) = name :: names segs :=
  rfl

@[simp] theorem length_literalRuns (segs : List Segment) :
    (literalRuns segs).length = (names segs).length + 1 := by
  induction segs with
  | nil => rfl
  | cons seg segs ih =>
      cases seg with
      | literal text => rw [literalRuns, List.length_modifyHead, ih, names_literal]
      | placeholder name => rw [literalRuns, List.length_cons, ih, names_placeholder,
          List.length_cons]

/-- Text in front of the first run is in front of the whole. -/
theorem weave_modifyHead
    (text : String)
    (hruns : runs ≠ [])
    (values : List String) :
    weave (runs.modifyHead (text ++ ·)) values = text ++ weave runs values := by
  obtain ⟨run, runs, rfl⟩ := List.exists_cons_of_ne_nil hruns
  cases values with
  | nil => rfl
  | cons value values => simp only [List.modifyHead_cons, weave, String.append_assoc]

theorem literalRuns_ne_nil (segs : List Segment) : literalRuns segs ≠ [] :=
  List.ne_nil_of_length_eq_add_one (length_literalRuns segs)

/-- Pieces are written as their runs with their placeholders between. -/
theorem render_eq_weave (segs : List Segment) :
    render segs = weave (literalRuns segs) ((names segs).map braced) := by
  induction segs with
  | nil => rfl
  | cons seg segs ih =>
      cases seg with
      | literal text =>
          rw [render_cons, literalRuns, weave_modifyHead _ (literalRuns_ne_nil segs), names_literal,
            ih, Segment.render]
      | placeholder name =>
          rw [render_cons, literalRuns, names_placeholder, List.map_cons, weave, ih,
            String.empty_append, braced]

/-- Tight pieces have runs and names that make up a template. -/
theorem isSpelling_of_isTight (h : IsTight segs) : IsSpelling (literalRuns segs) (names segs) := by
  refine ⟨length_literalRuns segs, ?_, ?_⟩
  · induction segs with
    | nil => simp [literalRuns, IsPlain]
    | cons seg segs ih =>
        cases seg with
        | literal text =>
            obtain ⟨_, hplain, _, htight⟩ := h
            obtain ⟨run, runs, hruns⟩ := List.exists_cons_of_ne_nil (literalRuns_ne_nil segs)
            have hall := ih htight
            rw [hruns, List.forall_mem_cons] at hall
            rw [literalRuns, hruns, List.modifyHead_cons, List.forall_mem_cons]
            refine ⟨?_, hall.2⟩
            rw [IsPlain, String.toList_append, List.mem_append, List.mem_append, not_or, not_or]
            exact ⟨⟨hplain.1, hall.1.1⟩, hplain.2, hall.1.2⟩
        | placeholder name =>
            rw [literalRuns, List.forall_mem_cons]
            exact ⟨⟨List.not_mem_nil, List.not_mem_nil⟩, ih h.2⟩
  · induction segs with
    | nil => exact List.forall_mem_nil _
    | cons seg segs ih =>
        cases seg with
        | literal text => exact ih h.2.2.2
        | placeholder name => exact List.forall_mem_cons.2 ⟨h.1, ih h.2⟩

/-- Text in front of tight pieces makes tight pieces, unless it would touch another one. -/
theorem exists_isTight_front
    (segs : List Segment)
    {run : String}
    (hrun : IsPlain run)
    (hfirst : ¬ BeginsLiteral segs)
    (h : IsTight segs) :
    ∃ segs', IsTight segs' ∧ literalRuns segs' = (literalRuns segs).modifyHead (run ++ ·) ∧
      names segs' = names segs := by
  by_cases hempty : run = ""
  · obtain ⟨first, runs, hruns⟩ := List.exists_cons_of_ne_nil (literalRuns_ne_nil segs)
    refine ⟨segs, h, ?_, rfl⟩
    rw [hempty, hruns, List.modifyHead_cons, String.empty_append]
  · exact ⟨.literal run :: segs, ⟨hempty, hrun, hfirst, h⟩, rfl, rfl⟩

/-- All runs and names that make up a template are those of tight pieces. -/
theorem exists_isTight_of_isSpelling
    {runs names : List String}
    (h : IsSpelling runs names) :
    ∃ segs, IsTight segs ∧ literalRuns segs = runs ∧ Template.names segs = names := by
  induction names generalizing runs with
  | nil =>
      obtain ⟨run, rfl⟩ := List.length_eq_one_iff.1 h.length
      obtain ⟨segs, htight, hruns, hnames⟩ :=
        exists_isTight_front [] (h.plain run (List.mem_singleton_self run)) id trivial
      refine ⟨segs, htight, ?_, hnames⟩
      rw [hruns, literalRuns, List.modifyHead_cons, String.append_empty]
  | cons name names ih =>
      obtain ⟨run, runs, rfl⟩ := List.exists_cons_of_length_eq_add_one h.length
      obtain ⟨hplain, hplains⟩ := List.forall_mem_cons.1 h.plain
      obtain ⟨hname, hnames⟩ := List.forall_mem_cons.1 h.named
      obtain ⟨rest, hrest, rfl, rfl⟩ := ih ⟨Nat.succ.inj h.length, hplains, hnames⟩
      obtain ⟨segs, htight, hruns, hnames⟩ :=
        exists_isTight_front (.placeholder name :: rest) hplain id ⟨hname, hrest⟩
      refine ⟨segs, htight, ?_, hnames⟩
      rw [hruns, literalRuns, List.modifyHead_cons, String.append_empty]

theorem compile_eq_ok_iff
    {s : String}
    {t : Template} :
    compile s = .ok t ↔ t.text = s ∧ tokenize s = .ok t.segments := by
  unfold compile
  cases tokenize s with
  | error f => exact iff_of_false nofun fun h => nomatch h.2
  | ok segs =>
      constructor
      · rintro ⟨⟩
        exact ⟨rfl, rfl⟩
      · rintro ⟨rfl, ⟨⟩⟩
        rfl

/-- A template that is read is spelled by its runs and names. -/
theorem spelling_of_tokenize
    {s : String}
    (h : tokenize s = .ok segs) :
    IsSpelling (literalRuns segs) (names segs) ∧
      s = weave (literalRuns segs) ((names segs).map braced) := by
  obtain ⟨htight, rfl⟩ := tokenize_eq_ok_iff.1 h
  exact ⟨isSpelling_of_isTight htight, render_eq_weave segs⟩

/-- What is spelled by runs and names is read as a template that has them. -/
theorem exists_tokenize_of_isSpelling
    {runs names : List String}
    (h : IsSpelling runs names) :
    ∃ segs, tokenize (weave runs (names.map braced)) = .ok segs ∧ literalRuns segs = runs ∧
      Template.names segs = names := by
  obtain ⟨segs, htight, rfl, rfl⟩ := exists_isTight_of_isSpelling h
  exact ⟨segs, tokenize_eq_ok_iff.2 ⟨htight, render_eq_weave segs⟩, rfl, rfl⟩

end Runs

end Template
end ApiGateway
