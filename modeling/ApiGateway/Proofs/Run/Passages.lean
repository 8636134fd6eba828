import ApiGateway.Run.Basic

/-!
# What a stage can do

Every stage of a run ends in one of a few ways. For each stage one statement lists them all, with
the condition under which each of them happens and with everything that it leaves behind, so that
what holds of all runs can be shown without opening the stages again.
-/

namespace ApiGateway
namespace Stage

open Passage

section Entry

variable (s : Surroundings)
variable (g : Gateway)
variable (x : Exchange)

/-- A route is found, or the request is refused for the reason that the table gives. -/
theorem resolveRoute_cases :
    (∃ e,
      g.table.resolve x.request.method x.request.uri.path = .error e ∧
      resolveRoute g x = refuse g x e) ∨
    (∃ r,
      g.table.resolve x.request.method x.request.uri.path = .ok r ∧
      resolveRoute g x =
        proceed g
          { x with
            resolved := some r
            requestId :=
              (r.route.requestIdKey.bind x.request.headers.text?).getD x.requestId }) := by
  unfold resolveRoute
  split
  · rename_i e h
    exact Or.inl ⟨e, h, rfl⟩
  · rename_i r h
    exact Or.inr ⟨r, h, rfl⟩

/-- A stage that needs the route refuses an exchange without one. -/
theorem onRoute_cases (stage : ResolvedRoute → Passage) :
    (x.resolved = none ∧ onRoute g x stage = refuse g x Exchange.withoutRoute) ∨
    (∃ r, x.resolved = some r ∧ onRoute g x stage = stage r) := by
  unfold onRoute Exchange.route
  cases h : x.resolved with
  | none => exact Or.inl ⟨rfl, rfl⟩
  | some r => exact Or.inr ⟨r, rfl, rfl⟩

/-- The quota is asked about a caller that is limited; what the limiter answers decides. -/
theorem limitRate_cases :
    (x.resolved = none ∧ limitRate s g x = refuse g x Exchange.withoutRoute) ∨
    (∃ r,
      x.resolved = some r ∧
      (r.route.rateLimit = none ∨
        ∃ p, r.route.rateLimit = some p ∧
          p.isWhitelisted (p.clientId x.request.headers) = true) ∧
      limitRate s g x = proceed g x) ∨
    (∃ r p limiter decision,
      x.resolved = some r ∧
      r.route.rateLimit = some p ∧
      p.isWhitelisted (p.clientId x.request.headers) = false ∧
      g.limiter.check p r.route.key (p.clientId x.request.headers) s.now = (limiter, decision) ∧
      ((decision.allowed = true ∧
          limitRate s g x =
            proceed { g with limiter } { x with advice := decision.headers p s.wallClock }) ∨
        (decision.allowed = false ∧
          limitRate s g x =
            refuse
              (({ g with limiter } : Gateway).countFor
                "gateway_rate_limit_rejected_total" r.route.key)
              { x with advice := decision.headers p s.wallClock } p.rejection))) := by
  unfold limitRate
  rcases onRoute_cases g x _ with ⟨hx, h⟩ | ⟨r, hx, h⟩
  · exact Or.inl ⟨hx, h⟩
  · refine Or.inr ?_
    rw [h]
    cases hp : r.route.rateLimit with
    | none => exact Or.inl ⟨r, hx, Or.inl hp, rfl⟩
    | some p =>
        cases hw : p.isWhitelisted (p.clientId x.request.headers) with
        | true => exact Or.inl ⟨r, hx, Or.inr ⟨p, hp, hw⟩, by simp [hw]⟩
        | false =>
            cases hc : g.limiter.check p r.route.key (p.clientId x.request.headers) s.now with
            | mk limiter decision =>
                refine Or.inr ⟨r, p, limiter, decision, hx, hp, hw, hc, ?_⟩
                cases hd : decision.allowed with
                | true => exact Or.inl ⟨rfl, by simp [hw, hc, hd]⟩
                | false => exact Or.inr ⟨rfl, by simp [hw, hc, hd]⟩

/-- The authenticator is asked where the route has a policy; what it answers decides. -/
theorem authenticate_cases :
    (x.resolved = none ∧ authenticate s g x = refuse g x Exchange.withoutRoute) ∨
    (∃ r,
      x.resolved = some r ∧
      r.route.authentication = none ∧
      authenticate s g x = proceed g x) ∨
    (∃ r p claims,
      x.resolved = some r ∧
      r.route.authentication = some p ∧
      s.identify p x.request.headers = .ok claims ∧
      authenticate s g x = proceed g { x.contact (.identity p) with claims := some claims }) ∨
    (∃ r p e,
      x.resolved = some r ∧
      r.route.authentication = some p ∧
      s.identify p x.request.headers = .error e ∧
      authenticate s g x = refuse g (x.contact (.identity p)) e) := by
  unfold authenticate
  rcases onRoute_cases g x _ with ⟨hx, h⟩ | ⟨r, hx, h⟩
  · exact Or.inl ⟨hx, h⟩
  · refine Or.inr ?_
    rw [h]
    cases hp : r.route.authentication with
    | none => exact Or.inl ⟨r, hx, hp, rfl⟩
    | some p =>
        refine Or.inr ?_
        have hheaders : (x.contact (.identity p)).request.headers = x.request.headers := rfl
        simp only [hheaders]
        cases hi : s.identify p x.request.headers with
        | ok claims => exact Or.inl ⟨r, p, claims, hx, hp, hi, rfl⟩
        | error e => exact Or.inr ⟨r, p, e, hx, hp, hi, rfl⟩

/-- Authorisation changes nothing; it only lets the exchange go on or refuses it. -/
theorem authorise_cases :
    (x.resolved = none ∧ authorise g x = refuse g x Exchange.withoutRoute) ∨
    (∃ r,
      x.resolved = some r ∧
      r.route.authentication = none ∧
      authorise g x = proceed g x) ∨
    (∃ r p,
      x.resolved = some r ∧
      r.route.authentication = some p ∧
      x.claims = none ∧
      authorise g x = refuse g x (.unauthorised "no claims")) ∨
    (∃ r p claims,
      x.resolved = some r ∧
      r.route.authentication = some p ∧
      x.claims = some claims ∧
      claims.authorise r.route.claimsRequirement p.allowedScopes = .ok () ∧
      authorise g x = proceed g x) ∨
    (∃ r p claims e,
      x.resolved = some r ∧
      r.route.authentication = some p ∧
      x.claims = some claims ∧
      claims.authorise r.route.claimsRequirement p.allowedScopes = .error e ∧
      authorise g x = refuse g x e) := by
  unfold authorise
  rcases onRoute_cases g x _ with ⟨hx, h⟩ | ⟨r, hx, h⟩
  · exact Or.inl ⟨hx, h⟩
  · refine Or.inr ?_
    rw [h]
    cases hp : r.route.authentication with
    | none => exact Or.inl ⟨r, hx, hp, rfl⟩
    | some p =>
        refine Or.inr ?_
        cases hc : x.claims with
        | none => exact Or.inl ⟨r, p, hx, hp, rfl, rfl⟩
        | some claims =>
            refine Or.inr ?_
            cases ha : claims.authorise r.route.claimsRequirement p.allowedScopes with
            | ok u => exact Or.inl ⟨r, p, claims, hx, hp, rfl, ha, by simp [ha]⟩
            | error e => exact Or.inr ⟨r, p, claims, e, hx, hp, rfl, ha, by simp [ha]⟩

/-- The cache answers, or it does not know the key, or it is not asked. -/
theorem lookUp_cases :
    (x.resolved = none ∧ lookUp s g x = refuse g x Exchange.withoutRoute) ∨
    (∃ r,
      x.resolved = some r ∧
      (r.route.cache = none ∨ Cache.isCacheable x.request.method = false) ∧
      lookUp s g x = proceed g x) ∨
    (∃ r p e,
      x.resolved = some r ∧
      r.route.cache = some p ∧
      Cache.isCacheable x.request.method = true ∧
      cacheKeyOf x p = .error e ∧
      lookUp s g x = refuse g x e) ∨
    (∃ r p key hit,
      x.resolved = some r ∧
      r.route.cache = some p ∧
      Cache.isCacheable x.request.method = true ∧
      cacheKeyOf x p = .ok key ∧
      g.cache.get? key p.region s.now = some hit ∧
      lookUp s g x =
        ⟨g.countFor "gateway_cache_hits_total" r.route.key,
          { x with response := some hit, servedFromCache := true }, .respond⟩) ∨
    (∃ r p key,
      x.resolved = some r ∧
      r.route.cache = some p ∧
      Cache.isCacheable x.request.method = true ∧
      cacheKeyOf x p = .ok key ∧
      g.cache.get? key p.region s.now = none ∧
      lookUp s g x =
        proceed (g.countFor "gateway_cache_misses_total" r.route.key)
          { x with cacheKey := some key }) := by
  unfold lookUp
  rcases onRoute_cases g x _ with ⟨hx, h⟩ | ⟨r, hx, h⟩
  · exact Or.inl ⟨hx, h⟩
  · refine Or.inr ?_
    rw [h]
    cases hp : r.route.cache with
    | none => exact Or.inl ⟨r, hx, Or.inl hp, rfl⟩
    | some p =>
        cases hm : Cache.isCacheable x.request.method with
        | false => exact Or.inl ⟨r, hx, Or.inr rfl, by simp⟩
        | true =>
            refine Or.inr ?_
            cases hk : cacheKeyOf x p with
            | error e => exact Or.inl ⟨r, p, e, hx, hp, rfl, hk, by simp [hk]⟩
            | ok key =>
                refine Or.inr ?_
                cases hc : g.cache.get? key p.region s.now with
                | some hit =>
                    exact Or.inl ⟨r, p, key, hit, hx, hp, rfl, hk, hc, by simp [hk, hc]⟩
                | none => exact Or.inr ⟨r, p, key, hx, hp, rfl, hk, hc, by simp [hk, hc]⟩

end Entry

section Backend

variable (s : Surroundings)
variable (g : Gateway)
variable (x : Exchange)

/-- A request for the backend is made, or the request is refused; nothing else changes. -/
theorem construct_cases :
    (∃ q,
      x.buildOutbound = .ok q ∧
      pass s .requestConstruction g x = proceed g { x with outbound := some q }) ∨
    (∃ e,
      x.buildOutbound = .error e ∧
      pass s .requestConstruction g x = refuse g x e) := by
  unfold pass
  cases h : x.buildOutbound with
  | ok q => exact Or.inl ⟨q, rfl, rfl⟩
  | error e => exact Or.inr ⟨e, rfl, rfl⟩

/-- A lease that cannot be used to address the request is given back at once. -/
theorem address_cases (r : Route) (l : Lease) :
    (∃ e, address g x r l = refuse (g.giveBack (some l)) x e) ∨
    (∃ q₀ q,
      x.outbound = some q₀ ∧
      q₀.sendTo r.downstreamScheme l.service.endpoint = .ok q ∧
      address g x r l =
        proceed (g.giveBack x.lease) { x with outbound := some q, lease := some l }) := by
  unfold address
  cases ho : x.outbound with
  | none => exact Or.inl ⟨_, rfl⟩
  | some q₀ =>
      cases hs : q₀.sendTo r.downstreamScheme l.service.endpoint with
      | error e => exact Or.inl ⟨e, by simp [hs]⟩
      | ok q => exact Or.inr ⟨q₀, q, rfl, hs, by simp [hs]⟩

/-- No lease is taken, or one is taken and the request is addressed with it. -/
theorem takeLease_cases :
    (x.resolved = none ∧ takeLease s g x = refuse g x Exchange.withoutRoute) ∨
    (∃ r g' e,
      x.resolved = some r ∧
      g.takeLease s r.route = (g', .error e) ∧
      takeLease s g x = refuse g' x e) ∨
    (∃ r g' l,
      x.resolved = some r ∧
      g.takeLease s r.route = (g', .ok l) ∧
      takeLease s g x =
        address (g'.countLease r.route.key l.service.endpoint) x r.route l) := by
  unfold takeLease
  rcases onRoute_cases g x _ with ⟨hx, h⟩ | ⟨r, hx, h⟩
  · exact Or.inl ⟨hx, h⟩
  · refine Or.inr ?_
    rw [h]
    cases ht : g.takeLease s r.route with
    | mk g' result =>
        cases result with
        | error e => exact Or.inl ⟨r, g', e, hx, ht, rfl⟩
        | ok l => exact Or.inr ⟨r, g', l, hx, ht, rfl⟩

/-- The breaker refuses the call, or the call is under way. -/
theorem beginCall_cases :
    (∃ e, beginCall s g x = refuse g x e) ∨
    (∃ r l q breakers metrics e,
      x.resolved = some r ∧
      x.lease = some l ∧
      x.outbound = some q ∧
      beginCall s g x = refuse { g with breakers, metrics } { x with outbound := none } e) ∨
    (∃ r l q scope breakers guard,
      x.resolved = some r ∧
      x.lease = some l ∧
      x.outbound = some q ∧
      Qos.enter g.breakers r.route.qos scope s.now = (breakers, .ok guard) ∧
      beginCall s g x =
        ⟨{ g with breakers }, ({ x with outbound := none } : Exchange).contact (.backend q),
          .await ⟨q, scope, guard⟩⟩) := by
  unfold beginCall
  rcases onRoute_cases g x _ with ⟨hx, h⟩ | ⟨r, hx, h⟩
  · exact Or.inl ⟨_, h⟩
  · rw [h]
    cases hl : x.lease with
    | none => exact Or.inl ⟨_, rfl⟩
    | some l =>
        cases hq : x.outbound with
        | none => exact Or.inl ⟨_, rfl⟩
        | some q =>
            refine Or.inr ?_
            cases he : Qos.enter g.breakers r.route.qos
                ((r.route.qos.map (·.scopeKey r.route.key l.service.endpoint)).getD "") s.now with
            | mk breakers result =>
                cases result with
                | error e =>
                    exact Or.inl ⟨r, l, q, breakers, _, e, hx, rfl, rfl, by simp [he]; rfl⟩
                | ok guard =>
                    exact Or.inr ⟨r, l, q, _, breakers, guard, hx, rfl, rfl, he, by simp [he]⟩

/-- The answer of the backend becomes the response. -/
theorem mapResponse_cases :
    (∃ e, mapResponse g x = refuse g x e) ∨
    (∃ r,
      x.backendResponse = some r ∧
      mapResponse g x =
        proceed g
          { x with
            backendResponse := none
            response := some { r with headers := r.headers.withoutHops } }) := by
  unfold mapResponse
  cases h : x.backendResponse with
  | none => exact Or.inl ⟨_, rfl⟩
  | some r => exact Or.inr ⟨r, rfl, rfl⟩

/-- Storing changes the cache and nothing else, and never ends a run that has a route. -/
theorem store_cases :
    (x.resolved = none ∧ store s g x = refuse g x Exchange.withoutRoute) ∨
    (∃ r, x.resolved = some r ∧ store s g x = proceed g x) ∨
    (∃ r p key response,
      x.resolved = some r ∧
      r.route.cache = some p ∧
      x.cacheKey = some key ∧
      x.response = some response ∧
      Status.isSuccess response.status = true ∧
      store s g x =
        proceed { g with cache := (g.cache.add key response p.ttl p.region s.now).1 } x) := by
  unfold store
  rcases onRoute_cases g x _ with ⟨hx, h⟩ | ⟨r, hx, h⟩
  · exact Or.inl ⟨hx, h⟩
  · refine Or.inr ?_
    rw [h]
    cases hp : r.route.cache with
    | none => exact Or.inl ⟨r, hx, rfl⟩
    | some p =>
        cases hk : x.cacheKey with
        | none => exact Or.inl ⟨r, hx, rfl⟩
        | some key =>
            cases hr : x.response with
            | none => exact Or.inl ⟨r, hx, rfl⟩
            | some response =>
                cases hs : Status.isSuccess response.status with
                | false => exact Or.inl ⟨r, hx, by simp [hs]⟩
                | true => exact Or.inr ⟨r, p, key, response, hx, hp, rfl, rfl, hs, by simp [hs]⟩

end Backend

end Stage
end ApiGateway
