import ApiGateway.Proofs.Cache.Keys
import ApiGateway.Proofs.Exchange.PassedClaims
import ApiGateway.Proofs.Traffic.CachedAnswers

/-!
# Callers who share an answer

The key under which an answer is kept is made of the method and the target of the call. So callers
who share an answer on one route have the same claims in the query (`Claims.SameOn`), unless two
digests collide. The claims that the route passes on in headers are no part of the key: the caller
who is answered from the cache may have others there, or none.

Main statement: `shares_shown_claims`.
-/

namespace ApiGateway

/-- Two routes are one but for the number of their table. -/
def Route.SameSettings (r r' : Route) : Prop :=
  { r with generation := r'.generation } = r'

theorem Route.SameSettings.parts
    {r r' : Route}
    (h : r.SameSettings r') :
    r.key = r'.key ∧ r.cache = r'.cache ∧ r.queriesFromClaims = r'.queriesFromClaims := by
  rw [← h]
  exact ⟨rfl, rfl, rfl⟩

namespace Exchange

/-- What the key of an exchange under a policy is the digest of. -/
def keyMessage (x : Exchange) (p : Cache.Policy) : Except GatewayError Bytes := do
  let r ← x.route
  let target ← x.target
  return Cache.keyBytes x.request.method r.route.key target
    (if p.hashBody then some x.request.body else none)

end Exchange

namespace Stage

/-- A key is the digest of its message, which tells the route and the target. -/
theorem exists_keyMessage_of_cacheKeyOf
    {x : Exchange}
    {p : Cache.Policy}
    {key : String}
    (h : cacheKeyOf x p = .ok key) :
    ∃ found target,
      x.resolved = some found ∧
      Exchange.targetOf found x.request.uri.query x.callerClaims = .ok target ∧
      x.keyMessage p = .ok (Cache.keyBytes x.request.method found.route.key target
        (if p.hashBody then some x.request.body else none)) ∧
      Cache.key x.request.method found.route.key target
        (if p.hashBody then some x.request.body else none) = key := by
  obtain ⟨found, hfound, h⟩ := bind_eq_ok.1 h
  obtain ⟨target, htarget, h⟩ := bind_eq_ok.1 h
  refine ⟨found, target, Exchange.route_eq_ok_iff.1 hfound, ?_, ?_, Except.ok.inj h⟩
  · unfold Exchange.target at htarget
    rwa [hfound] at htarget
  · unfold Exchange.keyMessage
    rw [hfound, htarget]
    rfl

/-- The key depends on no other claims than those of the query. -/
theorem cacheKeyOf_of_sameOn
    {x : Exchange}
    {found : ResolvedRoute}
    {claims : Claims}
    (hx : x.resolved = some found)
    (h : x.callerClaims.SameOn found.route.queriesFromClaims claims)
    (p : Cache.Policy) :
    cacheKeyOf { x with claims := some claims } p = cacheKeyOf x p := by
  have htarget : Exchange.target { x with claims := some claims } = x.target := by
    unfold Exchange.target
    have hroute : Exchange.route { x with claims := some claims } = .ok found :=
      Exchange.route_eq_ok_iff.2 hx
    rw [hroute, Exchange.route_eq_ok_iff.2 hx]
    exact Exchange.targetOf_congr h _
  unfold cacheKeyOf
  rw [htarget]
  rfl

/-- An entry under the key of an exchange is its answer. -/
theorem lookUp_of_hasKey
    {s : Surroundings}
    {g : Gateway}
    {x : Exchange}
    {p : Cache.Policy}
    {key : String}
    {hit : Response}
    (h : x.HasKey p key)
    (hhit : g.cache.get? key p.region s.now = some hit) :
    (lookUp s g x).verdict = .respond ∧ (lookUp s g x).exchange.response = some hit := by
  obtain ⟨⟨found, hx, hp⟩, hcacheable, hkey⟩ := h
  unfold lookUp Passage.onRoute
  simp [Exchange.route_eq_ok_iff.2 hx, hp, hcacheable, hkey, hhit]

end Stage

namespace Traffic

open Stage (standard)

/-- The request that a run sends to a backend has all its headers. -/
theorem tracks_hasHeaders (g : Gateway) :
    Tracks g (fun _ _ x ahead => .requestConstruction ∉ ahead → x.HasHeaders) fun _ _ _ => True where
  start _ _ _ _ _ _ := fun hne => absurd (by decide) hne
  keep h := h
  keepEnd h := h
  pass := by
    intro events id x stage rest s p _ hsuffix hp hgoes h hne
    by_cases hconstruct : stage = .requestConstruction
    · subst hconstruct
      obtain rfl := hp.eq_pass nofun
      rcases Stage.construct_cases s ((Traffic.new g).after events).gateway x with
        ⟨q, hq, hpass⟩ | ⟨e, _, hpass⟩ <;> rw [hpass] at hgoes ⊢
      · exact (Exchange.hasHeaders_of_buildOutbound hq).congr rfl
      · exact absurd hgoes Passage.not_goesOn_refuse
    · exact (h (List.not_mem_cons_of_ne_of_not_mem (Ne.symm hconstruct) hne)).congr
        (hp.inquiry_of_past hsuffix (by decide) hne)
  answer _ h := fun hne => (h hne).congr rfl
  respond _ _ _ _ _ := trivial
  finish _ := trivial

namespace Recall

variable {g : Gateway}
variable {events : List Event}
variable {id : Nat}

/-- Two requests with different calls have one key all the same. -/
def Collides (o : Recall g events id) : Prop :=
  ∃ m m',
    o.stored.keyMessage o.storing = .ok m ∧
    o.asked.keyMessage o.serving = .ok m' ∧
    Sha256.Collide m m'

/-- The look-up gives its answer to an exchange. -/
def Serves (o : Recall g events id) (x : Exchange) : Prop :=
  let gateway := ((Traffic.new g).after
    (o.before ++ .meet o.source (.pass o.atStore) :: o.between)).gateway
  (Stage.lookUp o.atLookup gateway x).verdict = .respond ∧
    (Stage.lookUp o.atLookup gateway x).exchange.response = some o.answer.withoutHops

/-- The two requests of one route are kept and looked up under the same policy. -/
theorem storing_eq_serving
    (o : Recall g events id)
    {found found' : ResolvedRoute}
    (hfound : o.asked.resolved = some found)
    (hfound' : o.stored.resolved = some found')
    (hcache : found'.route.cache = found.route.cache) :
    o.storing = o.serving := by
  obtain ⟨_, hx, hserving⟩ := o.looksUp.policy
  obtain ⟨_, hy, hstoring⟩ := o.stores.policy
  obtain rfl := Option.some.inj (hx.symm.trans hfound)
  obtain rfl := Option.some.inj (hy.symm.trans hfound')
  exact Option.some.inj (hstoring.symm.trans (hcache.trans hserving))

/-- On one route, the two requests have one method and one target, unless digests collide. -/
theorem collides_or_target_eq
    (o : Recall g events id)
    {found found' : ResolvedRoute}
    (hfound : o.asked.resolved = some found)
    (hfound' : o.stored.resolved = some found')
    (hsame : found'.route.SameSettings found.route) :
    o.Collides ∨
      o.stored.request.method = o.asked.request.method ∧
      ∃ target,
        Exchange.targetOf found' o.stored.request.uri.query o.stored.callerClaims = .ok target ∧
        Exchange.targetOf found o.asked.request.uri.query o.asked.callerClaims = .ok target := by
  obtain ⟨hroute, hcache, _⟩ := hsame.parts
  have hpolicy := o.storing_eq_serving hfound hfound' hcache
  obtain ⟨_, target, hx, htarget, hmessage, hkey⟩ :=
    Stage.exists_keyMessage_of_cacheKeyOf o.looksUp.key
  obtain ⟨_, target', hy, htarget', hmessage', hkey'⟩ :=
    Stage.exists_keyMessage_of_cacheKeyOf o.stores.key
  obtain rfl := Option.some.inj (hx.symm.trans hfound)
  obtain rfl := Option.some.inj (hy.symm.trans hfound')
  have hbody : (if o.storing.hashBody then some o.stored.request.body else none).isSome =
      (if o.serving.hashBody then some o.asked.request.body else none).isSome := by
    rw [hpolicy]
    cases o.serving.hashBody <;> rfl
  have hkeys := hkey'.trans hkey.symm
  rw [hroute] at hkeys hmessage'
  rcases Cache.collide_or_eq_of_key_eq o.stores.cacheable o.looksUp.cacheable hbody hkeys with
    hcollide | ⟨hmethod, rfl⟩
  · exact .inl ⟨_, _, hmessage', hmessage, hcollide⟩
  · exact .inr ⟨hmethod, target', htarget', htarget⟩

/-- Whoever has the same claims in the query would have got the answer as well. -/
theorem serves_of_sameOn
    (o : Recall g events id)
    {found : ResolvedRoute}
    {claims : Claims}
    (hfound : o.asked.resolved = some found)
    (h : o.asked.callerClaims.SameOn found.route.queriesFromClaims claims) :
    o.Serves { o.asked with claims := some claims } := by
  refine Stage.lookUp_of_hasKey (p := o.serving) ⟨o.looksUp.policy, o.looksUp.cacheable, ?_⟩ o.hit
  rw [Stage.cacheKeyOf_of_sameOn hfound h]
  exact o.looksUp.key

/-- The request that stored the answer had all its headers. -/
theorem hasHeaders_stored (o : Recall g events id) : o.stored.HasHeaders := by
  obtain ⟨rest, hpending⟩ := o.stores.pending
  obtain ⟨horder, hheaders⟩ :=
    ((tracks_hasHeaders g).tracked (pending?_eq_some_iff_run?.1 hpending).1).of_passing
  rw [Stage.rest_eq_of_suffix horder (List.drop_suffix 9 standard)] at hheaders
  exact hheaders (by decide)

/-- The run that stored the answer keeps its route and its caller to its end. -/
theorem inquiry_source
    (o : Recall g events id)
    {r : Run}
    (hr : ((Traffic.new g).after events).run? o.source = some r) :
    r.exchange.inquiry = o.stored.inquiry := by
  obtain ⟨rest, hpending⟩ := o.stores.pending
  have hrun := (pending?_eq_some_iff_run?.1 hpending).1
  rw [(congrArg (Traffic.new g).after o.split).trans (after_append _ _ _)] at hr
  obtain ⟨horder, _⟩ := ((tracks_hasHeaders g).tracked hrun).of_passing
  obtain rfl := Stage.rest_eq_of_suffix horder (List.drop_suffix 9 standard)
  exact (later_of_after hrun hr).inquiry
    (show .routeResolution ∉ [Stage.cacheStore, .release] by decide)
    (show .authentication ∉ [Stage.cacheStore, .release] by decide)

theorem source_lt (o : Recall g events id) :
    o.source < ((Traffic.new g).after events).runs.length := by
  obtain ⟨rest, hpending⟩ := o.stores.pending
  rw [(congrArg (Traffic.new g).after o.split).trans (after_append _ _ _)]
  exact Nat.lt_of_lt_of_le (lt_of_run?_eq_some (pending?_eq_some_iff_run?.1 hpending).1)
    (length_runs_after _)

end Recall

/--
In any traffic, a request that is answered from the cache has the method of the one that stored the
answer on the same route, and its claims in the query, and so in the headers that pass these on,
unless two digests collide. Other headers do not count: the one that stored the answer had all of
them, and any caller with the same claims in the query would have got it as well.
-/
theorem shares_shown_claims
    {config : Config.Gateway}
    {g : Gateway}
    (hg : Gateway.ofConfig config = .ok g)
    {events : List Event}
    {id : Nat}
    {r : Run}
    {found : ResolvedRoute}
    (hr : ((Traffic.new g).after events).run? id = some r)
    (hserved : r.isServed = true)
    (hcached : r.exchange.servedFromCache = true)
    (hfound : r.exchange.resolved = some found) :
    ∃ o : Recall g events id,
      r.exchange.inquiry = o.asked.inquiry ∧
      o.stored.HasHeaders ∧
      (∀ found', o.stored.resolved = some found' → found'.route.SameSettings found.route →
        o.Collides ∨
          o.stored.request.method = r.exchange.request.method ∧
          o.stored.callerClaims.SameOn found.route.queriesFromClaims r.exchange.callerClaims ∧
          o.stored.callerClaims.SameOn found.route.shownHeaders r.exchange.callerClaims) ∧
      ∀ claims, r.exchange.callerClaims.SameOn found.route.queriesFromClaims claims →
        o.Serves { o.asked with claims := some claims } := by
  obtain ⟨o, hinquiry, _⟩ := exists_recall_of_isServed hg hr hserved hcached
  obtain ⟨hrequest, hresolved, _⟩ := Exchange.inquiry_eq_iff.1 hinquiry
  rw [hresolved] at hfound
  rw [hrequest, Exchange.callerClaims_congr hinquiry]
  refine ⟨o, hinquiry, o.hasHeaders_stored, fun found' hfound' hsame => ?_,
    fun claims h => o.serves_of_sameOn hfound h⟩
  rcases o.collides_or_target_eq hfound hfound' hsame with
    hcollides | ⟨hmethod, target, htarget', htarget⟩
  · exact .inl hcollides
  · obtain ⟨_, _, hqueries⟩ := hsame.parts
    have hshown := Exchange.sameOn_of_targetOf_eq hqueries htarget' htarget
    exact .inr ⟨hmethod, hshown, hshown.shownHeaders⟩

/--
Whoever is answered from the cache has the claims of the one that stored the answer in all headers.
-/
def KeepsHeadersApart : Prop :=
  ∀ config g events id r found,
    Gateway.ofConfig config = .ok g →
    ((Traffic.new g).after events).run? id = some r →
    r.isServed = true →
    r.exchange.servedFromCache = true →
    r.exchange.resolved = some found →
    ∀ (o : Recall g events id) found',
      o.stored.resolved = some found' →
      found'.route = found.route →
      o.stored.callerClaims.SameOn found.route.headersFromClaims r.exchange.callerClaims

section TwoColleagues

/-- A configuration that tells the backend the user in a header and the tenant in the query. -/
def personal : Config.Gateway where
  routes := [{
    upstreamPathTemplate := "/a"
    downstreamPathTemplate := "/a"
    downstreamHosts := [⟨"one", 80⟩]
    cache := some { ttlSeconds := 60 }
    authentication := some ⟨"key", []⟩
    addHeaders := .ofPairs [("X-User", "Claims[sub] > value")]
    addQueries := .ofPairs [("tenant", "Claims[org] > value")] }]

/-- Two users of one tenant ask for the same, and the second one does so within the minute. -/
def twoColleagues : List Event :=
  let request : Request := ⟨.get, ⟨none, none, some ⟨"/a", none⟩⟩, {}, []⟩
  let alice : Surroundings :=
    { now := 1, identify := fun _ _ => .ok ⟨[("sub", "alice"), ("org", "acme")]⟩ }
  let bob : Surroundings :=
    { now := 2, identify := fun _ _ => .ok ⟨[("org", "acme"), ("sub", "bob")]⟩ }
  [.arrive request ⟨.v4 127 0 0 1, 4000⟩ "" 1]
    ++ List.replicate 8 (.meet 0 (.pass alice))
    ++ [.meet 0 (.answer 1 (.ok ⟨200, {}, [0x61]⟩))]
    ++ List.replicate 4 (.meet 0 (.pass alice))
    ++ [.arrive request ⟨.v4 127 0 0 1, 4001⟩ "" 2]
    ++ List.replicate 5 (.meet 1 (.pass bob))

/-- The second one is answered from the cache, and is another user. -/
theorem exists_runs_twoColleagues :
    ∃ g a b found,
      Gateway.ofConfig personal = .ok g ∧
      ((Traffic.new g).after twoColleagues).run? 0 = some a ∧
      ((Traffic.new g).after twoColleagues).run? 1 = some b ∧
      b.exchange.resolved = some found ∧
      ((Traffic.new g).after twoColleagues).runs.length = 2 ∧
      b.isServed = true ∧
      b.exchange.servedFromCache = true ∧
      a.exchange.resolved.map (·.route) = some found.route ∧
      found.route.headersFromClaims = [⟨"X-User", "sub", none⟩] ∧
      found.route.queriesFromClaims = [⟨"tenant", "org", none⟩] ∧
      a.exchange.callerClaims.get? "sub" = some "alice" ∧
      b.exchange.callerClaims.get? "sub" = some "bob" ∧
      b.exchange.callerClaims.get? "org" = some "acme" := by
  have hrun :
      ((Gateway.ofConfig personal).toOption.map fun g =>
        (((Traffic.new g).after twoColleagues).run? 0).bind fun a =>
          (((Traffic.new g).after twoColleagues).run? 1).bind fun b =>
            b.exchange.resolved.map fun found =>
              decide (((Traffic.new g).after twoColleagues).runs.length = 2 ∧
                b.isServed = true ∧
                b.exchange.servedFromCache = true ∧
                a.exchange.resolved.map (·.route) = some found.route ∧
                found.route.headersFromClaims = [⟨"X-User", "sub", none⟩] ∧
                found.route.queriesFromClaims = [⟨"tenant", "org", none⟩] ∧
                a.exchange.callerClaims.get? "sub" = some "alice" ∧
                b.exchange.callerClaims.get? "sub" = some "bob" ∧
                b.exchange.callerClaims.get? "org" = some "acme")) =
      some (some true) := by
    decide +kernel
  obtain ⟨g, hg, hrun⟩ := exists_eq_ok_of_map hrun
  obtain ⟨a, ha, hrun⟩ := Option.bind_eq_some_iff.1 hrun
  obtain ⟨b, hb, hrun⟩ := Option.bind_eq_some_iff.1 hrun
  obtain ⟨found, hfound, hrun⟩ := Option.map_eq_some_iff.1 hrun
  exact ⟨g, a, b, found, hg, ha, hb, hfound, of_decide_eq_true hrun⟩

/-- The second user gets what was made for the first one. -/
theorem not_keepsHeadersApart : ¬ KeepsHeadersApart := by
  intro hkeeps
  obtain ⟨g, a, b, found, hg, ha, hb, hfound, hlength, hserved, hcached, hroute, hheaders, _,
    halice, hbob, _⟩ := exists_runs_twoColleagues
  obtain ⟨o, _⟩ := exists_recall_of_isServed hg hb hserved hcached
  have hsource : o.source = 0 := by
    have hlt := o.source_lt
    have hother := o.other
    omega
  have hstored := o.inquiry_source (hsource ▸ ha)
  obtain ⟨_, hresolved, _⟩ := Exchange.inquiry_eq_iff.1 hstored
  obtain ⟨found', hfound', hsame⟩ := Option.map_eq_some_iff.1 hroute
  obtain ⟨value, hvalue, hvalue'⟩ :=
    hkeeps _ g _ 1 b found hg hb hserved hcached hfound o found' (hresolved ▸ hfound') hsame
      ⟨"X-User", "sub", none⟩ (hheaders ▸ List.mem_singleton_self _)
  rw [← Exchange.callerClaims_congr hstored, ClaimsExpression.extract_whole_iff, halice] at hvalue
  rw [ClaimsExpression.extract_whole_iff, hbob] at hvalue'
  exact absurd (hvalue.trans hvalue'.symm) (by decide)

/--
They are of one tenant; and whoever is of this tenant gets the answer, without being any user.
-/
theorem shares_shown_claims_twoColleagues :
    ∃ g b found,
      Gateway.ofConfig personal = .ok g ∧
      ((Traffic.new g).after twoColleagues).run? 1 = some b ∧
      b.isServed = true ∧
      b.exchange.servedFromCache = true ∧
      b.exchange.resolved = some found ∧
      found.route.queriesFromClaims = [⟨"tenant", "org", none⟩] ∧
      ∃ o : Recall g twoColleagues 1,
        (∀ found', o.stored.resolved = some found' → found'.route.SameSettings found.route →
          o.Collides ∨ o.stored.callerClaims.get? "org" = some "acme") ∧
        o.Serves { o.asked with claims := some ⟨[("org", "acme")]⟩ } := by
  obtain ⟨g, a, b, found, hg, ha, hb, hfound, _, hserved, hcached, _, _, hqueries, _, _, horg⟩ :=
    exists_runs_twoColleagues
  obtain ⟨o, _, _, hshares, hserves⟩ := shares_shown_claims hg hb hserved hcached hfound
  refine ⟨g, b, found, hg, hb, hserved, hcached, hfound, hqueries, o, ?_, hserves _ ?_⟩
  · intro found' hfound' hsame
    rcases hshares found' hfound' hsame with hcollides | ⟨_, hsameOn, _⟩
    · exact .inl hcollides
    · obtain ⟨value, hvalue, hvalue'⟩ :=
        hsameOn ⟨"tenant", "org", none⟩ (hqueries ▸ List.mem_singleton_self _)
      rw [ClaimsExpression.extract_whole_iff] at hvalue hvalue'
      exact .inr (hvalue.trans (hvalue'.symm.trans horg))
  · rw [hqueries]
    intro e he
    obtain rfl := List.mem_singleton.1 he
    exact ⟨"acme", ClaimsExpression.extract_whole_iff.2 horg, rfl⟩

end TwoColleagues

end Traffic
end ApiGateway
