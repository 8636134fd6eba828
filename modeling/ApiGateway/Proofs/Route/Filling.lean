import ApiGateway.Proofs.Route.Cuts
import ApiGateway.Route.Substitution

/-!
# What templates are filled with

A template is filled with the values of a match by their places, whatever their names are. This
succeeds just when there are enough values, and gives the literal runs of the template with the
values between them; values are not read, so braces in them mean nothing. Filling undoes matching:
a template gives the path back that it has matched, and so does each one with the same runs.

Main statement: `fill_undoes_match`.
-/

namespace ApiGateway

namespace Template

section Filling

variable {segs : List Segment}
variable {bs : List Binding}

/-- With enough values the pieces are filled, and make up the runs with the values between them. -/
theorem exists_fill_of_le
    (h : (names segs).length ≤ bs.length) :
    ∃ texts, fill segs bs = .ok texts ∧
      String.join texts =
        weave (literalRuns segs) ((bs.map (·.value)).take (names segs).length) := by
  induction segs generalizing bs with
  | nil => exact ⟨[], rfl, rfl⟩
  | cons seg segs ih =>
      cases seg with
      | literal text =>
          obtain ⟨texts, hfill, hjoin⟩ := ih h
          refine ⟨text :: texts, map_eq_ok.2 ⟨texts, hfill, rfl⟩, ?_⟩
          rw [String.join_cons, hjoin, literalRuns, names_literal,
            weave_modifyHead text (literalRuns_ne_nil segs)]
      | placeholder name =>
          cases bs with
          | nil => exact absurd h (Nat.not_succ_le_zero _)
          | cons b bs =>
              obtain ⟨texts, hfill, hjoin⟩ := ih (Nat.le_of_succ_le_succ h)
              refine ⟨b.value :: texts, map_eq_ok.2 ⟨texts, hfill, rfl⟩, ?_⟩
              rw [String.join_cons, hjoin, literalRuns, names_placeholder, List.length_cons,
                List.map_cons, List.take_succ_cons, weave, String.empty_append]

/-- With too few values there is a placeholder for which none is left. -/
theorem exists_fill_error_of_lt
    (h : bs.length < (names segs).length) :
    ∃ name, fill segs bs = .error name := by
  induction segs generalizing bs with
  | nil => exact absurd h (Nat.not_lt_zero _)
  | cons seg segs ih =>
      cases seg with
      | literal text =>
          obtain ⟨name, hfill⟩ := ih h
          exact ⟨name, by rw [fill, hfill]; rfl⟩
      | placeholder name =>
          cases bs with
          | nil => exact ⟨name, rfl⟩
          | cons b bs =>
              obtain ⟨name, hfill⟩ := ih (Nat.lt_of_succ_lt_succ h)
              exact ⟨name, by rw [fill, hfill]; rfl⟩

end Filling

section Substitution

variable {template : String}
variable {segs : List Segment}
variable {m : PathMatch}

/-- Nothing is special about the empty template. -/
theorem substitute_eq
    (template : String)
    (m : PathMatch) :
    substitute template m =
      match tokenize template with
      | .error f => .error (f.toError template)
      | .ok segments =>
          match fill segments m.bindings with
          | .ok texts => .ok (String.join texts)
          | .error name =>
              .error (.internal
                ("downstream template '" ++ template ++
                  "' has more placeholders than the upstream match, missing '\x7b" ++ name
                  ++ "\x7d'")) := by
  unfold substitute
  split
  · rename_i hempty
    obtain rfl := String.isEmpty_iff.1 hempty.1
    rfl
  · rfl

/-- With enough values a template is filled. -/
theorem substitute_of_le
    (h : tokenize template = .ok segs)
    (hle : (names segs).length ≤ m.bindings.length) :
    substitute template m =
      .ok (weave (literalRuns segs) ((m.bindings.map (·.value)).take (names segs).length)) := by
  obtain ⟨texts, hfill, hjoin⟩ := exists_fill_of_le hle
  rw [substitute_eq, h]
  simp only [hfill, hjoin]

/-- A template is filled just when it can be read and has no more placeholders than values. -/
theorem exists_substitute_iff :
    (∃ out, substitute template m = .ok out) ↔
      ∃ segs, tokenize template = .ok segs ∧ (names segs).length ≤ m.bindings.length := by
  constructor
  · rintro ⟨out, h⟩
    rw [substitute_eq] at h
    split at h
    · cases h
    · rename_i segs hsegs
      refine ⟨segs, hsegs, ?_⟩
      by_contra hlt
      obtain ⟨name, hfill⟩ := exists_fill_error_of_lt (Nat.lt_of_not_le hlt)
      rw [hfill] at h
      cases h
  · rintro ⟨segs, hsegs, hle⟩
    exact ⟨_, substitute_of_le hsegs hle⟩

end Substitution

section Inverse

variable {s path : String}
variable {t : Template}
variable {m : PathMatch}

/-- A template with the runs of the one that was matched gives the path back. -/
theorem substitute_of_match
    (hm : t.match? path = some m)
    {other : String}
    {t' : Template}
    (h : compile other = .ok t')
    (hruns : literalRuns t'.segments = literalRuns t.segments) :
    substitute other m = .ok path := by
  obtain ⟨_, _, hgreatest⟩ := match?_eq_some_iff.1 hm
  have hlength : (names t'.segments).length = (m.bindings.map (·.value)).length := by
    have hcut := hgreatest.cut.length
    rw [← hruns, length_literalRuns] at hcut
    exact Nat.succ.inj hcut
  rw [substitute_of_le (compile_eq_ok_iff.1 h).2 (by rw [hlength, List.length_map]), hlength,
    List.take_length, hruns, hgreatest.cut.woven]

/--
A match has one binding for each placeholder, under the names in their order. Filling the template
with it gives the path back, and so does filling any template with the same runs, which there is for
all names that placeholders may have. In general a template is filled just when it can be read and
has no more placeholders than there are bindings (as the empty one, where there are none), with the
values of the bindings between its runs, whatever they are.
-/
theorem fill_undoes_match
    (h : compile s = .ok t)
    (hm : t.match? path = some m) :
    (m.bindings.map (·.name) = t.placeholders ∧
      substitute s m = .ok path ∧
      (∀ other t', compile other = .ok t' →
        literalRuns t'.segments = literalRuns t.segments →
        substitute other m = .ok path) ∧
      ∀ names : List String,
        names.length = t.placeholders.length →
        (∀ name ∈ names, IsPlaceholderName name) →
        ∃ t', compile (weave (literalRuns t.segments) (names.map braced)) = .ok t' ∧
          literalRuns t'.segments = literalRuns t.segments ∧
          t'.placeholders = names) ∧
    ∀ (template : String) (m' : PathMatch),
      ((∃ out, substitute template m' = .ok out) ↔
        (∃ segs, tokenize template = .ok segs ∧ (names segs).length ≤ m'.bindings.length) ∨
          (template = "" ∧ m'.bindings = [])) ∧
      ∀ segs, tokenize template = .ok segs →
        (names segs).length ≤ m'.bindings.length →
        substitute template m' =
          .ok (weave (literalRuns segs)
            ((m'.bindings.map (·.value)).take (names segs).length)) := by
  refine ⟨⟨(match?_eq_some_iff.1 hm).2.1, substitute_of_match hm h rfl, fun other t' hother hruns =>
    substitute_of_match hm hother hruns, fun names hlength hnames => ?_⟩, fun template m' =>
    ⟨?_, fun _ => substitute_of_le⟩⟩
  · have hspelling := (spelling_of_tokenize (compile_eq_ok_iff.1 h).2).1
    obtain ⟨segs, hread, hruns, hsegs⟩ := exists_tokenize_of_isSpelling
      ⟨hlength ▸ hspelling.length, hspelling.plain, hnames⟩
    exact ⟨⟨_, segs⟩, compile_eq_ok_iff.2 ⟨rfl, hread⟩, hruns, hsegs⟩
  · rw [exists_substitute_iff]
    refine ⟨.inl, fun h => h.elim id ?_⟩
    rintro ⟨rfl, _⟩
    exact ⟨[], rfl, Nat.zero_le _⟩

/-- The match of a path that has braces in it. -/
def bracedMatch : PathMatch :=
  ⟨[⟨"from", "{id}"⟩, ⟨"to", "b"⟩, ⟨"rest", ""⟩], "/{id}-b"⟩

/-- The path is given back by a template that has one name thrice, and its braces are not read. -/
theorem fill_undoes_match_braces :
    compile "/{from}-{to}{rest}" = .ok adjoining ∧
    adjoining.match? "/{id}-b" = some bracedMatch ∧
    substitute "/{x}-{x}{x}" bracedMatch = .ok "/{id}-b" ∧
    substitute "/v2/{x}" bracedMatch = .ok "/v2/{id}" ∧
    ¬ ∃ out, substitute "/{a}{b}{c}{d}" bracedMatch = .ok out := by
  have hcompile : compile "/{from}-{to}{rest}" = .ok adjoining := rfl
  have hmatch : adjoining.match? "/{id}-b" = some bracedMatch := by decide +kernel
  obtain ⟨⟨_, _, hothers, _⟩, hgeneral⟩ := fill_undoes_match hcompile hmatch
  refine ⟨hcompile, hmatch, ?_, ?_, ?_⟩
  · exact hothers _ ⟨_, [.literal "/", .placeholder "x", .literal "-", .placeholder "x",
      .placeholder "x"]⟩ rfl (by decide)
  · exact (hgeneral _ bracedMatch).2 [.literal "/v2/", .placeholder "x"] rfl (by decide)
  · rw [(hgeneral _ bracedMatch).1]
    rintro (⟨segs, hsegs, hle⟩ | ⟨hempty, _⟩)
    · cases hsegs
      exact absurd hle (by decide)
    · exact absurd hempty (by decide)

end Inverse

end Template
end ApiGateway
