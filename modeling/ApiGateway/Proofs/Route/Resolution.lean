import ApiGateway.Proofs.Route.Filling
import ApiGateway.Proofs.Route.Keys

/-!
# Which route a request takes

A table tries its routes in the order of the configuration. A request takes the first one that
covers its path and takes its method. It is refused where there is none: for its method if some
route covers its path, and else for its path. It is never refused for another cause, since each
route of a compiled table can fill its downstream template from every path that it covers.

The methods of a refusal are those that the covering routes take. So they are exactly the ones for
which the same path leads somewhere, and all others are refused in the same way.

Main statements: `resolve_answers`, `allowsExactly_of_resolve`.
-/

namespace ApiGateway

open Template (IsGreatestCut literalRuns weave)

namespace Text

/-- A capital that is made small becomes the same capital again. -/
theorem toUpper_toLower_toUpper (c : Char) : c.toUpper.toLower.toUpper = c.toUpper := by
  by_cases hascii : c.toNat < 128
  · have hall : ∀ n < 128,
        (Char.ofNat n).toUpper.toLower.toUpper = (Char.ofNat n).toUpper := by
      decide
    have hchar := hall c.toNat hascii
    rwa [Char.ofNat_toNat] at hchar
  · have hupper : c.toUpper = c :=
      dif_neg fun h => hascii (Nat.lt_of_le_of_lt (UInt32.le_iff_toNat_le.1 h.2) (by decide))
    have hlower : c.toLower = c :=
      dif_neg fun h => hascii (Nat.lt_of_le_of_lt (UInt32.le_iff_toNat_le.1 h.2) (by decide))
    rw [hupper, hlower, hupper]

/-- Texts in capitals that differ only in case are the same. -/
theorem asciiUpper_eq_of_asciiLower_eq
    {s t : String}
    (h : asciiLower (asciiUpper s) = asciiLower (asciiUpper t)) :
    asciiUpper s = asciiUpper t := by
  have hagain : ∀ u : String, asciiUpper (asciiLower (asciiUpper u)) = asciiUpper u := by
    intro u
    refine congrArg String.ofList ?_
    rw [asciiLower, asciiUpper, String.toList_ofList, String.toList_ofList, List.map_map,
      List.map_map]
    exact List.map_congr_left fun c _ => toUpper_toLower_toUpper c
  rw [← hagain s, h, hagain t]

end Text

namespace Route

/-- What decides to where a route leads, as its settings have it. -/
structure Follows (r : Route) (s : Config.Route) : Prop where
  upstream : Template.compile s.upstreamPathTemplate = .ok r.upstream
  methods : r.methods = s.methods
  downstreamTemplate : r.downstreamTemplate = s.downstreamPathTemplate
  /-- There are no more placeholders to fill than values to fill them with. -/
  fillable : ∃ d : Template,
    Template.compile r.downstreamTemplate = .ok d ∧
    d.placeholders.length ≤ r.upstream.placeholders.length

/-- What a route makes of a path that it covers. -/
structure Leads (r : Route) (path : String) (found : ResolvedRoute) : Prop where
  route : found.route = r
  matched : found.pathMatch.matched = path
  names : found.pathMatch.bindings.map (·.name) = r.upstream.placeholders
  values : IsGreatestCut (literalRuns r.upstream.segments) path
    (found.pathMatch.bindings.map (·.value))
  downstreamPath : ∃ d : Template,
    Template.compile r.downstreamTemplate = .ok d ∧
    found.downstreamPath = weave (literalRuns d.segments)
      ((found.pathMatch.bindings.map (·.value)).take d.placeholders.length)

section Single

variable {r : Route}
variable {path : String}

/-- A compiled route follows its settings. -/
theorem follows_of_compile
    {generation : Nat}
    {global : Config.Global}
    {s : Config.Route}
    (h : compile generation global s = .ok r) :
    r.Follows s := by
  obtain ⟨upstream, _, _, _, _, _, _, _, hupstream, _,
    ⟨_, _, ⟨d, hd, hcheck⟩, told, htold, rfl⟩, rfl⟩ := exists_of_compile h
  refine ⟨hupstream, ?_, rfl, d, hd, Nat.not_lt.1 (checkPlaceholders_eq_ok_iff.1 hcheck)⟩
  rw [Config.Route.methods, filterMap_toOption_of_mapM htold]

/-- From a path that it covers, a route can fill its downstream template. -/
theorem Follows.exists_leads
    {s : Config.Route}
    (h : r.Follows s)
    {m : PathMatch}
    (hm : r.upstream.match? path = some m) :
    ∃ out, Template.substitute r.downstreamTemplate m = .ok out ∧ r.Leads path ⟨r, m, out⟩ := by
  obtain ⟨d, hd, hle⟩ := h.fillable
  obtain ⟨hmatched, hnames, hvalues⟩ := Template.match?_eq_some_iff.1 hm
  have hlength : d.placeholders.length ≤ m.bindings.length := by
    rw [← hnames, List.length_map] at hle
    exact hle
  exact ⟨_, Template.substitute_of_le (Template.compile_eq_ok_iff.1 hd).2 hlength, rfl, hmatched,
    hnames, hvalues, d, hd, rfl⟩

end Single

end Route

namespace RouteTable

/-- The answer that a request of a method and a path is to get from a table. -/
inductive Answers (t : RouteTable) (method : Method) (path : String) :
    Except GatewayError ResolvedRoute → Prop
  | found {before after : List Route} {r : Route} {found : ResolvedRoute} :
      t.routes = before ++ r :: after →
      (∀ r' ∈ before, ¬ r'.Serves method path) →
      r.Serves method path →
      r.Leads path found →
      Answers t method path (.ok found)
  | methodNotAllowed {r : Route} (allowed : List String) :
      (∀ r ∈ t.routes, ¬ r.Serves method path) →
      r ∈ t.routes →
      r.Covers path →
      Answers t method path (.error (.methodNotAllowed allowed))
  | routeNotFound :
      (∀ r ∈ t.routes, ¬ r.Covers path) →
      Answers t method path (.error .routeNotFound)

section Compiled

variable {generation : Nat}
variable {c : Config.Gateway}
variable {t : RouteTable}
variable {method : Method}
variable {path : String}

/-- The routes of a table follow the configured ones, in their order. -/
theorem follows_of_compile (h : compile generation c = .ok t) :
    List.Forall₂ (fun s r => r.Follows s) c.routes t.routes := by
  obtain ⟨rs, hrs, h⟩ := bind_eq_ok.1 h
  cases h
  exact (compileFrom_eq_ok_iff.1 hrs).1.imp fun _ _ => Route.follows_of_compile

theorem exists_follows_of_mem
    (h : compile generation c = .ok t)
    {r : Route}
    (hr : r ∈ t.routes) :
    ∃ s ∈ c.routes, r.Follows s := by
  obtain ⟨s, hs, hcompile⟩ := exists_of_mem_compile h hr
  exact ⟨s, hs, Route.follows_of_compile hcompile⟩

/-- A route that covers a path allows some methods if it does not take a method. -/
theorem allowedFor_ne_nil
    {allowed : List String}
    {rs : List Route}
    {r : Route}
    (hr : r ∈ rs)
    (hcovers : r.Covers path)
    (hserves : ¬ r.Serves method path) :
    allowedFor path allowed rs ≠ [] := by
  have hmethods : r.methods ≠ [] := fun h => hserves ⟨hcovers, .inl h⟩
  obtain ⟨m, hm⟩ := List.exists_mem_of_ne_nil _ hmethods
  exact List.ne_nil_of_mem (mem_allowedFor_iff.2 (.inr ⟨r, hr, hcovers, m, hm, rfl⟩))

/-- The first route that serves a request leads it on; if there is none, the request is refused. -/
theorem resolve_cases
    (h : compile generation c = .ok t)
    (method : Method)
    (path : String) :
    (∃ before r after found,
      t.routes = before ++ r :: after ∧
      (∀ r' ∈ before, ¬ r'.Serves method path) ∧
      r.Serves method path ∧
      r.Leads path found ∧
      t.resolve method path = .ok found) ∨
    ((∀ r ∈ t.routes, ¬ r.Serves method path) ∧
      t.resolve method path = .error (refusal (allowedFor path [] t.routes))) := by
  have htried := t.tried_resolve method path
  generalize t.resolve method path = result at htried ⊢
  cases htried with
  | @taken before after r m hrs hbefore htakes hm =>
      obtain ⟨s, _, hs⟩ := exists_follows_of_mem h
        (hrs ▸ List.mem_append_right before List.mem_cons_self : r ∈ t.routes)
      obtain ⟨out, hout, hleads⟩ := hs.exists_leads hm
      exact .inl ⟨before, r, after, _, hrs, hbefore, ⟨Route.covers_iff.2 ⟨m, hm⟩, htakes⟩, hleads,
        by rw [hout]; rfl⟩
  | refused hnone => exact .inr ⟨hnone, rfl⟩

/-- The answer of a compiled table to a request. -/
theorem answers_resolve
    (h : compile generation c = .ok t)
    (method : Method)
    (path : String) :
    t.Answers method path (t.resolve method path) := by
  rcases resolve_cases h method path with
    ⟨before, r, after, found, hroutes, hbefore, hserves, hleads, hresolve⟩ | ⟨hnone, hresolve⟩ <;>
    rw [hresolve]
  · exact .found hroutes hbefore hserves hleads
  · rw [refusal]
    split
    · rename_i hempty
      refine .routeNotFound fun r hr hcovers => ?_
      exact allowedFor_ne_nil hr hcovers (hnone r hr) (List.isEmpty_iff.1 hempty)
    · rename_i hallowed
      rw [List.isEmpty_iff] at hallowed
      obtain ⟨a, ha⟩ := List.exists_mem_of_ne_nil _ hallowed
      obtain ha | ⟨r, hr, hcovers, _⟩ := mem_allowedFor_iff.1 ha
      · cases ha
      · exact .methodNotAllowed _ hnone hr hcovers

/--
A table has the configured routes in their order, and answers each request by the first one that
covers its path and takes its method, with the values of the path and the downstream template filled
with them. Without such a route a request is refused for its method if some route covers its path,
and for its path otherwise, and for nothing else: what a route covers can always be filled in.
-/
theorem resolve_answers (h : compile generation c = .ok t) :
    List.Forall₂ (fun s r => r.Follows s) c.routes t.routes ∧
    (∀ r ∈ t.routes, ∀ path m, r.upstream.match? path = some m →
      ∃ out, Template.substitute r.downstreamTemplate m = .ok out) ∧
    ∀ method path, t.Answers method path (t.resolve method path) := by
  refine ⟨follows_of_compile h, fun r hr path m hm => ?_, answers_resolve h⟩
  obtain ⟨s, _, hs⟩ := exists_follows_of_mem h hr
  obtain ⟨out, hout, _⟩ := hs.exists_leads hm
  exact ⟨out, hout⟩

/-- Orders are written by the second route, and neither deleted nor found without a number. -/
theorem resolve_answers_orders :
    ∃ t, compile 0 orders = .ok t ∧
      (∀ method path, t.Answers method path (t.resolve method path)) ∧
      (t.resolve ⟨"post"⟩ "/orders/7").map (fun found => (found.route.methods, found.downstreamPath))
        = .ok ([⟨"POST"⟩], "/v2/7") ∧
      (t.resolve .delete "/orders/7").map (·.downstreamPath)
        = .error (.methodNotAllowed ["GET", "POST"]) ∧
      (t.resolve .get "/orders").map (·.downstreamPath) = .error .routeNotFound := by
  have hmade : (compile 0 orders).toOption.map (fun t =>
      ((t.resolve ⟨"post"⟩ "/orders/7").map fun found =>
        (found.route.methods, found.downstreamPath),
      (t.resolve .delete "/orders/7").map (·.downstreamPath),
      (t.resolve .get "/orders").map (·.downstreamPath))) =
      some (.ok ([⟨"POST"⟩], "/v2/7"), .error (.methodNotAllowed ["GET", "POST"]),
        .error .routeNotFound) := by
    decide +kernel
  obtain ⟨t, ht, hmade⟩ := exists_eq_ok_of_map hmade
  obtain ⟨_, _, hanswers⟩ := resolve_answers ht
  simp only [Prod.mk.injEq] at hmade
  exact ⟨t, ht, hanswers, hmade⟩

section Allowed

variable {allowed : List String}

/-- The methods for which a path leads somewhere, while all others are refused with them. -/
structure AllowsExactly (t : RouteTable) (path : String) (allowed : List String) : Prop where
  nonempty : allowed ≠ []
  /-- No method is there twice, in whatever case. -/
  nodup : (allowed.map Text.asciiLower).Nodup
  resolves : ∀ m : Method,
    (∃ found, t.resolve m path = .ok found) ↔
      Text.asciiLower m.text ∈ allowed.map Text.asciiLower
  refuses : ∀ m : Method,
    Text.asciiLower m.text ∉ allowed.map Text.asciiLower →
    t.resolve m path = .error (.methodNotAllowed allowed)

/-- What is allowed for a path where a method is refused. -/
theorem eq_allowedFor_of_resolve
    (h : compile generation c = .ok t)
    (hrefused : t.resolve method path = .error (.methodNotAllowed allowed)) :
    (∀ r ∈ t.routes, ¬ r.Serves method path) ∧
    allowed ≠ [] ∧
    allowed = allowedFor path [] t.routes := by
  rcases resolve_cases h method path with ⟨_, _, _, _, _, _, _, _, hfound⟩ | ⟨hnone, hresolve⟩
  · rw [hfound] at hrefused
    cases hrefused
  · rw [hresolve, refusal] at hrefused
    split at hrefused
    · cases hrefused
    · rename_i hne
      cases hrefused
      exact ⟨hnone, fun hempty => hne (List.isEmpty_iff.2 hempty), rfl⟩

/--
Where a method finds no route for a path, another one does if it is among those allowed for it.
-/
theorem exists_serves_iff_mem_allowedFor
    {rs : List Route}
    (hnone : ∀ r ∈ rs, ¬ r.Serves method path)
    {m : Method} :
    (∃ r ∈ rs, r.Serves m path) ↔
      Text.asciiLower m.text ∈ (allowedFor path [] rs).map Text.asciiLower := by
  rw [List.mem_map]
  constructor
  · rintro ⟨r, hr, hcovers, hall | ⟨n, hn, hsame⟩⟩
    · -- A covering route that takes all methods would have taken the one that was refused.
      exact absurd ⟨hcovers, .inl hall⟩ (hnone r hr)
    · exact ⟨n.text, mem_allowedFor_iff.2 (.inr ⟨r, hr, hcovers, n, hn, rfl⟩), hsame⟩
  · rintro ⟨_, ha, hsame⟩
    obtain ha | ⟨r, hr, hcovers, n, hn, rfl⟩ := mem_allowedFor_iff.1 ha
    · cases ha
    · exact ⟨r, hr, hcovers, .inr ⟨n, hn, hsame⟩⟩

/-- The methods that are allowed for a path were read from the configuration. -/
theorem exists_parseMethod_of_mem_allowedFor
    (h : compile generation c = .ok t)
    {a : String}
    (ha : a ∈ allowedFor path [] t.routes) :
    ∃ s m, Route.parseMethod s = .ok m ∧ m.text = a := by
  obtain ha | ⟨r, hr, _, m, hm, rfl⟩ := mem_allowedFor_iff.1 ha
  · cases ha
  · obtain ⟨s, _, hs⟩ := exists_follows_of_mem h hr
    rw [hs.methods] at hm
    obtain ⟨text, hparse⟩ := Route.exists_parseMethod_of_mem hm
    exact ⟨text, m, hparse, rfl⟩

/-- Where a method is refused, the ones that are told are exactly those that are allowed. -/
theorem allowsExactly_of_resolve
    (h : compile generation c = .ok t)
    (hrefused : t.resolve method path = .error (.methodNotAllowed allowed)) :
    t.AllowsExactly path allowed := by
  obtain ⟨hnone, hne, rfl⟩ := eq_allowedFor_of_resolve h hrefused
  refine ⟨hne, ?_, fun m => ?_, fun m hm => ?_⟩
  · refine (nodup_allowedFor List.nodup_nil).map_on fun a ha b hb hsame => ?_
    obtain ⟨_, _, hparse, rfl⟩ := exists_parseMethod_of_mem_allowedFor h ha
    obtain ⟨_, _, hparse', rfl⟩ := exists_parseMethod_of_mem_allowedFor h hb
    rw [(Route.of_parseMethod hparse).1, (Route.of_parseMethod hparse').1] at hsame ⊢
    exact Text.asciiUpper_eq_of_asciiLower_eq hsame
  · rw [← exists_serves_iff_mem_allowedFor hnone]
    rcases resolve_cases h m path with
      ⟨before, r, after, found, hroutes, _, hr, _, hfound⟩ | ⟨hnone, hresolve⟩
    · exact iff_of_true ⟨found, hfound⟩
        ⟨r, hroutes ▸ List.mem_append_right before List.mem_cons_self, hr⟩
    · refine iff_of_false ?_ fun ⟨r, hr, hserves⟩ => hnone r hr hserves
      rintro ⟨found, hfound⟩
      rw [hresolve] at hfound
      cases hfound
  · rcases resolve_cases h m path with ⟨before, r, after, _, hroutes, _, hr, _⟩ | ⟨_, hresolve⟩
    · exact absurd ((exists_serves_iff_mem_allowedFor hnone).1
        ⟨r, hroutes ▸ List.mem_append_right before List.mem_cons_self, hr⟩) hm
    · rw [hresolve, refusal, if_neg (by rwa [List.isEmpty_iff])]

end Allowed

end Compiled

end RouteTable
end ApiGateway
