import ApiGateway.Proofs.Route.Filling
import ApiGateway.Proofs.Route.Services
import ApiGateway.Route.Table

/-!
# Downstream paths

The downstream path of a valid route begins with a slash, whatever the request has bound: the
template does, so its first run of literal text does, and values are put behind this run.

Main statement: `Template.rooted_of_substitute`.
-/

namespace ApiGateway

/-- A text that begins with a slash. -/
def IsRooted (s : String) : Prop :=
  ∃ cs, s.toList = '/' :: cs

theorem IsRooted.append
    {s : String}
    (h : IsRooted s)
    (t : String) :
    IsRooted (s ++ t) := by
  obtain ⟨cs, hcs⟩ := h
  exact ⟨cs ++ t.toList, by rw [String.toList_append, hcs, List.cons_append]⟩

namespace Template

section Weaving

variable {run : String}
variable {runs : List String}

/-- A text begins with a slash if its first run does. -/
theorem isRooted_weave
    (h : IsRooted run)
    (values : List String) :
    IsRooted (weave (run :: runs) values) := by
  cases values with
  | nil => exact h
  | cons value values => exact (h.append _).append _

/-- A template that begins with a slash does so in its first run, since no placeholder does. -/
theorem isRooted_of_weave_braced
    {names : List String}
    (h : IsRooted (weave (run :: runs) (names.map braced))) :
    IsRooted run := by
  cases names with
  | nil => exact h
  | cons name names =>
      obtain ⟨cs, hcs⟩ := h
      rw [List.map_cons, weave, String.toList_append, String.toList_append, braced,
        toList_render_placeholder] at hcs
      cases hrun : run.toList with
      | nil =>
          rw [hrun, List.nil_append, List.cons_append] at hcs
          exact absurd (List.cons.inj hcs).1 (by decide)
      | cons c rest =>
          rw [hrun, List.cons_append, List.cons_append] at hcs
          exact ⟨rest, by rw [hrun, (List.cons.inj hcs).1]⟩

end Weaving

/-- What is made of a template that begins with a slash begins with one. -/
theorem rooted_of_substitute
    {template path : String}
    {m : PathMatch}
    (htemplate : IsRooted template)
    (h : substitute template m = .ok path) :
    IsRooted path := by
  obtain ⟨segs, hsegs, hle⟩ := exists_substitute_iff.1 ⟨path, h⟩
  rw [substitute_of_le hsegs hle] at h
  cases h
  rw [(spelling_of_tokenize hsegs).2] at htemplate
  obtain ⟨run, runs, hruns⟩ := List.exists_cons_of_ne_nil (literalRuns_ne_nil segs)
  rw [hruns] at htemplate ⊢
  exact isRooted_weave (isRooted_of_weave_braced htemplate) _

end Template

/-- A route that was made of settings that are accepted. -/
def Route.IsValid (r : Route) : Prop :=
  ∃ generation global c hasDiscovery,
    Route.compile generation global c = .ok r ∧
    c.validate hasDiscovery = .ok ()

theorem Route.IsValid.addressing
    {r : Route}
    (h : r.IsValid) :
    IsRooted r.downstreamTemplate ∧
      (r.downstreamScheme = "http" ∨ r.downstreamScheme = "https") := by
  obtain ⟨generation, global, c, hasDiscovery, hcompile, hvalid⟩ := h
  obtain ⟨hpath, hscheme, _⟩ := c.addressing_of_validate hvalid
  obtain ⟨_, _, _, _, _, _, _, _, _, _, _, rfl⟩ := exists_of_compile hcompile
  refine ⟨?_, hscheme⟩
  obtain ⟨cs, hcs⟩ := String.startsWith_string_iff.1 hpath
  exact ⟨cs, hcs.symm⟩

namespace RouteTable

/-- The routes of the table of a valid configuration are valid. -/
theorem isValid_of_mem_compile
    {generation : Nat}
    {c : Config.Gateway}
    {t : RouteTable}
    (hvalid : c.validate = .ok ())
    (h : compile generation c = .ok t)
    {r : Route}
    (hr : r ∈ t.routes) :
    r.IsValid := by
  obtain ⟨s, hs, hcompile⟩ := exists_of_mem_compile h hr
  obtain ⟨_, _, hvalid⟩ := bind_eq_ok.1 hvalid
  obtain ⟨_, _, hvalid⟩ := bind_eq_ok.1 hvalid
  obtain ⟨_, _, hvalid⟩ := bind_eq_ok.1 hvalid
  exact ⟨_, _, s, _, hcompile, Config.mapError_eq_ok (forM_eq_ok.1 hvalid s hs)⟩

end RouteTable
end ApiGateway
