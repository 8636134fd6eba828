import ApiGateway.Gateway.Basic
import ApiGateway.Proofs.Route.Scan
import Mathlib.Data.List.Nodup

/-!
# What compilation promises

Every route of a compiled table comes from one of the configured routes, and its rate-limit policy
from the settings of that route and those for all routes. So a policy that is in force has a limit
and a period that are not zero, and all policies of one table count under the same prefix. No two
routes of a table have the same key.

A gateway starts with a compiled table and takes no other in its place.
-/

namespace ApiGateway

/-- A sequence of two steps succeeds if both do. -/
theorem bind_eq_ok
    {ε α β : Type}
    {x : Except ε α}
    {f : α → Except ε β}
    {b : β} :
    (x >>= f) = .ok b ↔ ∃ a, x = .ok a ∧ f a = .ok b := by
  cases x with
  | error e =>
      constructor
      · intro h
        cases h
      · rintro ⟨a, h, _⟩
        cases h
  | ok a =>
      constructor
      · intro h
        exact ⟨a, rfl, h⟩
      · rintro ⟨a', h, hf⟩
        cases h
        exact hf

/-- What can be said about a result tells that there is one. -/
theorem exists_eq_ok_of_map
    {ε α β : Type}
    {x : Except ε α}
    {f : α → β}
    {b : β}
    (h : x.toOption.map f = some b) :
    ∃ a, x = .ok a ∧ f a = b := by
  cases x with
  | error e => cases h
  | ok a => exact ⟨a, rfl, Option.some.inj h⟩

namespace RateLimit

/-- The parts of a policy that its settings decide on their own. -/
theorem Policy.ofConfig_eq_some
    {c : Config.RateLimit}
    {global : Config.RateLimitGlobal}
    {p : Policy}
    (h : Policy.ofConfig c global = .ok (some p)) :
    0 < p.limit ∧ 0 < p.period ∧ p.counterPrefix = global.counterPrefix := by
  unfold Policy.ofConfig at h
  split at h
  · cases h
  split at h
  · cases h
  rename_i hlimit
  split at h
  · cases h
  obtain ⟨period, hperiod, hp⟩ := bind_eq_ok.1 h
  cases hp
  refine ⟨?_, ?_, rfl⟩
  · have : c.limit.toNat ≠ 0 := fun h0 => hlimit (UInt64.toNat_inj.1 h0)
    simp only
    omega
  · unfold parsePeriod at hperiod
    split at hperiod
    · cases hperiod
    split at hperiod
    · cases hperiod
    · cases hperiod
      rename_i hzero
      exact Nat.pos_of_ne_zero hzero

end RateLimit

/-- The settings of a route that could be compiled, as they were read, and the route of them. -/
theorem Route.exists_of_compile
    {generation : Nat}
    {global : Config.Global}
    {c : Config.Route}
    {r : Route}
    (h : Route.compile generation global c = .ok r) :
    ∃ upstream methods balancerKind downstreamMethod rateLimit headers queries requestIdKey,
      Template.compile c.upstreamPathTemplate = .ok upstream ∧
      (match c.rateLimit with
        | some l => RateLimit.Policy.ofConfig l global.rateLimit
        | none => .ok none) = .ok rateLimit ∧
      (c.addHeaders.pairs.mapM (fun p => do
          let _ ← parseHeaderName p.1
          ClaimsExpression.parse p.1 p.2) = .ok headers ∧
        c.addQueries.pairs.mapM (fun p => ClaimsExpression.parse p.1 p.2) = .ok queries ∧
        (∃ downstream,
          Template.compile c.downstreamPathTemplate = .ok downstream ∧
          checkPlaceholders upstream downstream = .ok ()) ∧
        ∃ told,
          c.upstreamHttpMethod.mapM parseMethod = .ok told ∧
          methods = distinctMethods told) ∧
      r =
        { key := keyOf methods c.upstreamPathTemplate
          generation
          upstream
          methods
          downstreamTemplate := c.downstreamPathTemplate
          downstreamScheme := c.downstreamScheme
          downstreamHosts := c.downstreamHosts.map Service.ofHostAndPort
          serviceName := c.serviceName
          balancerKind
          downstreamMethod
          rateLimit
          cache := c.cache.map fun k => Cache.Policy.ofConfig k methods c.upstreamPathTemplate
          qos := c.qos.map Qos.Policy.ofConfig
          authentication := c.authentication.map fun a => ⟨a.providerKey, a.allowedScopes⟩
          claimsRequirement := c.claimsRequirement.sorted
          headersFromClaims := sortByKey headers
          queriesFromClaims := sortByKey queries
          requestIdKey } := by
  unfold Route.compile at h
  obtain ⟨upstream, hupstream, h⟩ := bind_eq_ok.1 h
  obtain ⟨downstream, hdownstream, h⟩ := bind_eq_ok.1 h
  obtain ⟨_, hcheck, h⟩ := bind_eq_ok.1 h
  obtain ⟨told, htold, h⟩ := bind_eq_ok.1 h
  obtain ⟨balancerKind, _, h⟩ := bind_eq_ok.1 h
  obtain ⟨downstreamMethod, _, h⟩ := bind_eq_ok.1 h
  cases hc : c.rateLimit <;>
    simp only [hc] at h <;>
    obtain ⟨rateLimit, hlimit, h⟩ := bind_eq_ok.1 h <;>
    obtain ⟨headers, hheaders, h⟩ := bind_eq_ok.1 h <;>
    obtain ⟨queries, hqueries, h⟩ := bind_eq_ok.1 h <;>
    obtain ⟨requestIdKey, _, h⟩ := bind_eq_ok.1 h <;>
    cases h <;>
    exact ⟨_, _, _, _, _, _, _, _, hupstream, hlimit,
      ⟨hheaders, hqueries, ⟨_, hdownstream, hcheck⟩, _, htold, rfl⟩, rfl⟩

/-- The policy of a compiled route comes from its settings. -/
theorem Route.rateLimit_of_compile
    {generation : Nat}
    {global : Config.Global}
    {c : Config.Route}
    {r : Route}
    {p : RateLimit.Policy}
    (h : Route.compile generation global c = .ok r)
    (hp : r.rateLimit = some p) :
    ∃ l, c.rateLimit = some l ∧
      RateLimit.Policy.ofConfig l global.rateLimit = .ok (some p) := by
  obtain ⟨_, _, _, _, _, _, _, _, _, hlimit, _, rfl⟩ := exists_of_compile h
  subst hp
  cases hc : c.rateLimit with
  | none =>
      rw [hc] at hlimit
      cases hlimit
  | some l =>
      rw [hc] at hlimit
      exact ⟨l, rfl, hlimit⟩

namespace RouteTable

theorem exists_of_mem_compileFrom
    {generation : Nat}
    {global : Config.Global}
    {seen : List String}
    {cs : List Config.Route}
    {rs : List Route}
    (h : compileFrom generation global seen cs = .ok rs)
    {r : Route}
    (hr : r ∈ rs) :
    ∃ c, c ∈ cs ∧ Route.compile generation global c = .ok r := by
  induction cs generalizing seen rs with
  | nil =>
      cases h
      cases hr
  | cons c cs ih =>
      obtain ⟨r', hcompile, h⟩ := bind_eq_ok.1 h
      split at h
      · cases h
      obtain ⟨rs', hrest, h⟩ := bind_eq_ok.1 h
      cases h
      rcases List.mem_cons.1 hr with rfl | hr
      · exact ⟨c, List.mem_cons_self, hcompile⟩
      · obtain ⟨c', hc', hr'⟩ := ih hrest hr
        exact ⟨c', List.mem_cons_of_mem _ hc', hr'⟩

/-- Every route of a compiled table comes from a configured one. -/
theorem exists_of_mem_compile
    {generation : Nat}
    {c : Config.Gateway}
    {t : RouteTable}
    (h : compile generation c = .ok t)
    {r : Route}
    (hr : r ∈ t.routes) :
    ∃ s, s ∈ c.routes ∧ Route.compile generation c.global s = .ok r := by
  obtain ⟨rs, hrs, h⟩ := bind_eq_ok.1 h
  cases h
  exact exists_of_mem_compileFrom hrs hr

theorem nodup_keys_of_compileFrom
    {generation : Nat}
    {global : Config.Global}
    {seen : List String}
    {cs : List Config.Route}
    {rs : List Route}
    (h : compileFrom generation global seen cs = .ok rs) :
    (rs.map (·.key)).Nodup ∧ ∀ r, r ∈ rs → r.key ∉ seen := by
  induction cs generalizing seen rs with
  | nil =>
      cases h
      simp
  | cons c cs ih =>
      obtain ⟨r, _, h⟩ := bind_eq_ok.1 h
      split at h
      · cases h
      rename_i hseen
      obtain ⟨rs', hrest, h⟩ := bind_eq_ok.1 h
      cases h
      obtain ⟨hnodup, hnew⟩ := ih hrest
      constructor
      · rw [List.map_cons, List.nodup_cons]
        refine ⟨?_, hnodup⟩
        intro hkey
        obtain ⟨r', hr', heq⟩ := List.mem_map.1 hkey
        exact hnew r' hr' (heq ▸ List.mem_cons_self)
      · intro r' hr'
        rcases List.mem_cons.1 hr' with rfl | hr'
        · simpa using hseen
        · exact fun hold => hnew r' hr' (List.mem_cons_of_mem _ hold)

/-- Routes of a compiled table that have the same key are the same. -/
theorem eq_of_key_eq
    {generation : Nat}
    {c : Config.Gateway}
    {t : RouteTable}
    (h : compile generation c = .ok t)
    {r r' : Route}
    (hr : r ∈ t.routes)
    (hr' : r' ∈ t.routes)
    (hkey : r.key = r'.key) :
    r = r' := by
  obtain ⟨rs, hrs, h⟩ := bind_eq_ok.1 h
  cases h
  exact List.inj_on_of_nodup_map (nodup_keys_of_compileFrom hrs).1 hr hr' hkey

/-- The policies of a compiled table: no limit and no period is zero, and the prefix is shared. -/
theorem policy_of_compile
    {generation : Nat}
    {c : Config.Gateway}
    {t : RouteTable}
    (h : compile generation c = .ok t)
    {r : Route}
    (hr : r ∈ t.routes)
    {p : RateLimit.Policy}
    (hp : r.rateLimit = some p) :
    0 < p.limit ∧ 0 < p.period ∧ p.counterPrefix = c.global.rateLimit.counterPrefix := by
  obtain ⟨s, _, hs⟩ := exists_of_mem_compile h hr
  obtain ⟨l, _, hl⟩ := Route.rateLimit_of_compile hs hp
  exact RateLimit.Policy.ofConfig_eq_some hl

end RouteTable

namespace Gateway

/-- The table in force was made from a configuration. -/
def IsCompiled (g : Gateway) : Prop :=
  ∃ generation c, RouteTable.compile generation c = .ok g.table

/-- A new gateway has a compiled table. -/
theorem isCompiled_ofConfig
    {c : Config.Gateway}
    {g : Gateway}
    (h : ofConfig c = .ok g) :
    g.IsCompiled := by
  obtain ⟨table, htable, h⟩ := bind_eq_ok.1 h
  cases h
  exact ⟨0, c, htable⟩

/-- A gateway that takes a new configuration, or refuses it, still has a compiled table. -/
theorem isCompiled_reload
    {g : Gateway}
    (h : g.IsCompiled)
    (c : Config.Gateway) :
    (g.reload c).1.IsCompiled := by
  unfold reload prepare
  cases hv : c.validate with
  | error v => exact h
  | ok u =>
      cases ht : RouteTable.compile g.nextGeneration c with
      | error e => exact h
      | ok table => exact ⟨g.nextGeneration, c, ht⟩

/-- Every limit that is in force lets somebody pass. -/
theorem limit_pos
    {g : Gateway}
    (h : g.IsCompiled)
    {r : Route}
    (hr : r ∈ g.table.routes)
    {p : RateLimit.Policy}
    (hp : r.rateLimit = some p) :
    0 < p.limit := by
  obtain ⟨_, _, hcompile⟩ := h
  exact (RouteTable.policy_of_compile hcompile hr hp).1

end Gateway
end ApiGateway
