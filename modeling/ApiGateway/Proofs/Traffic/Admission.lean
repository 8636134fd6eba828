import ApiGateway.Proofs.Claims.Grants
import ApiGateway.Proofs.Route.Callers
import ApiGateway.Proofs.Traffic.Runs

/-!
# Who is served in traffic

On a route that asks for its callers nobody is served, neither by a backend nor from the cache, who
was not identified for this very request and whose claims do not satisfy the route. A stage that
does not refuse the request hands on what the stages before it have found out (`Admitted`), so the
order of the stages matters: the caller is asked for, then the claims are checked, and only then the
cache is looked into.

Main statement: `served_of_claims`.
-/

namespace ApiGateway

namespace Traffic

open Stage (standard)

/-- The authenticator tells at an event who made the request of an exchange. -/
def Identifies
    (id : Nat)
    (x : Exchange)
    (p : AuthenticationPolicy)
    (claims : Claims)
    (t : Traffic)
    (e : Event) : Prop :=
  ∃ s y rest,
    e = .meet id (.pass s) ∧
    t.pending? id = some ⟨y, .passing (.authentication :: rest)⟩ ∧
    y.request = x.request ∧
    y.resolved = x.resolved ∧
    s.identify p x.request.headers = .ok claims

/-- The caller was identified if the route asks for this. -/
def Known (g : Gateway) (events : List Event) (id : Nat) (x : Exchange) : Prop :=
  ∀ found p, x.resolved = some found → found.route.authentication = some p →
    ∃ claims,
      x.claims = some claims ∧
      (Traffic.new g).Happened events (Identifies id x p claims)

/-- The claims satisfy the route if it asks for them. -/
def Granted (x : Exchange) : Prop :=
  ∀ found p claims, x.resolved = some found → found.route.authentication = some p →
    x.claims = some claims → claims.Satisfies found.route.claimsRequirement p.allowedScopes

/-- What the stages of admission have found out, as far as they are not ahead any more. -/
structure Admitted
    (g : Gateway)
    (events : List Event)
    (id : Nat)
    (x : Exchange)
    (ahead : List Stage) : Prop where
  known : .authentication ∉ ahead → Known g events id x
  granted : .authorisation ∉ ahead → Granted x

section Stages

variable {g : Gateway}
variable {events : List Event}
variable {id : Nat}
variable {x y : Exchange}

theorem Known.append
    (h : Known g events id x)
    (more : List Event) :
    Known g (events ++ more) id x := by
  intro found p hfound hp
  obtain ⟨claims, hclaims, hidentified⟩ := h found p hfound hp
  exact ⟨claims, hclaims, hidentified.append more⟩

theorem Known.congr
    (h : Known g events id x)
    (hy : y.inquiry = x.inquiry) :
    Known g events id y := by
  obtain ⟨hrequest, hresolved, hclaims⟩ := Exchange.inquiry_eq_iff.1 hy
  unfold Known Identifies
  rw [hrequest, hresolved, hclaims]
  exact h

theorem Granted.congr
    (h : Granted x)
    (hy : y.inquiry = x.inquiry) :
    Granted y := by
  obtain ⟨_, hresolved, hclaims⟩ := Exchange.inquiry_eq_iff.1 hy
  unfold Granted
  rw [hresolved, hclaims]
  exact h

variable {s : Surroundings}
variable {rest : List Stage}

/-- A caller that the stage of authentication does not refuse was identified. -/
theorem known_authenticate
    {gw : Gateway}
    (hpending : ((Traffic.new g).after events).pending? id =
      some ⟨x, .passing (.authentication :: rest)⟩)
    (hgoes : (Stage.authenticate s gw x).GoesOn) :
    Known g (events ++ [.meet id (.pass s)]) id (Stage.authenticate s gw x).exchange := by
  rcases Stage.authenticate_cases s gw x with
    ⟨_, h⟩ | ⟨r, hx, hnone, h⟩ | ⟨r, p, claims, hx, hp, hidentify, h⟩ | ⟨r, p, e, _, _, _, h⟩ <;>
    rw [h] at hgoes ⊢
  · exact absurd hgoes Passage.not_goesOn_refuse
  · intro found p hfound hp
    obtain rfl := Option.some.inj (hx.symm.trans hfound)
    rw [hnone] at hp
    cases hp
  · intro found p' hfound hp'
    obtain rfl := Option.some.inj (hx.symm.trans hfound)
    obtain rfl := Option.some.inj (hp.symm.trans hp')
    exact ⟨claims, rfl, happened_last ⟨s, x, rest, rfl, hpending, rfl, rfl, hidentify⟩⟩
  · exact absurd hgoes Passage.not_goesOn_refuse

/-- Claims that the stage of authorisation does not refuse satisfy the route. -/
theorem granted_authorise
    {gw : Gateway}
    (hgoes : (Stage.authorise gw x).GoesOn) :
    Granted (Stage.authorise gw x).exchange := by
  rcases Stage.authorise_cases gw x with
    ⟨_, h⟩ | ⟨r, hx, hnone, h⟩ | ⟨r, p, _, _, _, h⟩ | ⟨r, p, claims, hx, hp, hclaims, hok, h⟩ |
      ⟨r, p, claims, e, _, _, _, _, h⟩ <;>
    rw [h] at hgoes ⊢
  · exact absurd hgoes Passage.not_goesOn_refuse
  · intro found p claims hfound hp
    obtain rfl := Option.some.inj (hx.symm.trans hfound)
    rw [hnone] at hp
    cases hp
  · exact absurd hgoes Passage.not_goesOn_refuse
  · intro found p' claims' hfound hp' hclaims'
    obtain rfl := Option.some.inj (hx.symm.trans hfound)
    obtain rfl := Option.some.inj (hp.symm.trans hp')
    obtain rfl := Option.some.inj (hclaims.symm.trans hclaims')
    exact Claims.authorise_eq_ok_iff.1 hok
  · exact absurd hgoes Passage.not_goesOn_refuse

/-- A request whose claims satisfy the route goes on. -/
theorem authorise_of_satisfies
    (gw : Gateway)
    {found : ResolvedRoute}
    {p : AuthenticationPolicy}
    {claims : Claims}
    (hfound : x.resolved = some found)
    (hp : found.route.authentication = some p)
    (hclaims : x.claims = some claims)
    (h : claims.Satisfies found.route.claimsRequirement p.allowedScopes) :
    Stage.authorise gw x = .proceed gw x := by
  unfold Stage.authorise Passage.onRoute Exchange.route
  simp only [hfound, hp, hclaims, Claims.authorise_eq_ok_iff.2 h]

/-- A stage that does not refuse the request hands on what was found out about the caller. -/
theorem Admitted.pass
    {stage : Stage}
    {p : Passage}
    (h : Admitted g events id x (stage :: rest))
    (hpending : ((Traffic.new g).after events).pending? id =
      some ⟨x, .passing (stage :: rest)⟩)
    (hsuffix : stage :: rest <:+ standard)
    (hp : stage.Passes s ((Traffic.new g).after events).gateway x p)
    (hgoes : p.GoesOn) :
    Admitted g (events ++ [.meet id (.pass s)]) id p.exchange rest := by
  have hrest : ∀ rest', stage :: rest' <:+ standard → rest = rest' :=
    fun _ => Stage.rest_eq_of_suffix hsuffix
  by_cases hroute : stage = .routeResolution
  · subst hroute
    rw [hrest standard.tail (List.suffix_refl _)]
    exact ⟨fun hne => absurd (by decide) hne, fun hne => absurd (by decide) hne⟩
  by_cases hauthentication : stage = .authentication
  · subst hauthentication
    obtain rfl := hp.eq_pass nofun
    refine ⟨fun _ => known_authenticate hpending hgoes, fun hne => ?_⟩
    rw [hrest (standard.drop 3) (List.drop_suffix 2 standard)] at hne
    exact absurd (by decide) hne
  have hsame := hp.frame.inquiry (by simp [hroute, hauthentication])
  have hknown : .authentication ∉ rest →
      Known g (events ++ [.meet id (.pass s)]) id p.exchange := fun hne =>
    ((h.known (List.not_mem_cons_of_ne_of_not_mem (Ne.symm hauthentication) hne)).append _).congr
      hsame
  refine ⟨hknown, fun hne => ?_⟩
  by_cases hauthorisation : stage = .authorisation
  · subst hauthorisation
    obtain rfl := hp.eq_pass nofun
    exact granted_authorise hgoes
  · exact (h.granted (List.not_mem_cons_of_ne_of_not_mem (Ne.symm hauthorisation) hne)).congr hsame

/-- What is found out about the caller tracks all runs of traffic. -/
theorem tracks_admitted (g : Gateway) :
    Tracks g (Admitted g) fun events id x => Known g events id x ∧ Granted x where
  start _ _ _ _ _ _ := ⟨fun hne => absurd (by decide) hne, fun hne => absurd (by decide) hne⟩
  keep h := ⟨fun hne => (h.known hne).append _, h.granted⟩
  keepEnd h := ⟨h.1.append _, h.2⟩
  pass hpending hsuffix hp hgoes h := h.pass hpending hsuffix hp hgoes
  answer _ h := ⟨fun hne => ((h.known hne).append _).congr rfl, fun hne => (h.granted hne).congr rfl⟩
  respond := by
    intro events id x rest s _ hsuffix _ _ h
    rw [Stage.rest_eq_of_suffix hsuffix (List.drop_suffix 4 standard)] at h
    have hframe := Stage.findingFrame_lookUp s ((Traffic.new g).after events).gateway x
    have hsame := hframe.inquiry (by decide)
    exact ⟨((h.known (by decide)).append _).congr hsame, (h.granted (by decide)).congr hsame⟩
  finish h := ⟨(h.known List.not_mem_nil).append _, h.granted List.not_mem_nil⟩

end Stages

/--
Whoever is served on a route that asks for its callers was identified for this request, and the
claims satisfy all that is configured; and more claims, in whatever order, would not be refused.
-/
theorem served_of_claims
    {g : Gateway}
    {events : List Event}
    {id : Nat}
    {r : Run}
    {found : ResolvedRoute}
    {p : AuthenticationPolicy}
    (hr : ((Traffic.new g).after events).run? id = some r)
    (hserved : r.isServed = true)
    (hfound : r.exchange.resolved = some found)
    (hp : found.route.authentication = some p) :
    ∃ claims,
      r.exchange.claims = some claims ∧
      (Traffic.new g).Happened events (Identifies id r.exchange p claims) ∧
      (∀ q ∈ found.route.claimsRequirement, q ∈ claims.pairs) ∧
      (p.allowedScopes ≠ [] →
        ∃ v, ("scope", v) ∈ claims.pairs ∧ ∃ w ∈ Text.words v, w ∈ p.allowedScopes) ∧
      (∀ generation global c, Route.compile generation global c = .ok found.route →
        (∃ a, c.authentication = some a ∧ p = ⟨a.providerKey, a.allowedScopes⟩) ∧
        ∀ q ∈ c.claimsRequirement.pairs, q ∈ claims.pairs) ∧
      ∀ claims' : Claims, (∀ q ∈ claims.pairs, q ∈ claims'.pairs) →
        ∀ gw, Stage.authorise gw { r.exchange with claims := some claims' } =
          .proceed gw { r.exchange with claims := some claims' } := by
  obtain ⟨x, rfl, _, hknown, hgranted⟩ := ((tracks_admitted g).tracked hr).of_isServed hserved
  obtain ⟨claims, hclaims, hidentified⟩ := hknown found p hfound hp
  have hsatisfies := hgranted found p claims hfound hp hclaims
  refine ⟨claims, hclaims, hidentified, hsatisfies.required, hsatisfies.scope, ?_, ?_⟩
  · intro generation global c hc
    have hfrom := Route.callersFrom_of_compile hc
    refine ⟨?_, fun q hq => hsatisfies.required q ((hfrom.requirement q).2 hq)⟩
    obtain ⟨a, ha, hpolicy⟩ := Option.map_eq_some_iff.1 (hfrom.authentication.symm.trans hp)
    exact ⟨a, ha, hpolicy.symm⟩
  · intro claims' hmore gw
    exact authorise_of_satisfies gw hfound hp rfl (hsatisfies.mono hmore)

section SecondRole

/-- A configuration with a route for administrators who may write. -/
def administrators : Config.Gateway where
  routes := [{
    upstreamPathTemplate := "/a"
    downstreamPathTemplate := "/a"
    downstreamHosts := [⟨"one", 80⟩]
    authentication := some ⟨"key", ["write"]⟩
    claimsRequirement := .ofPairs [("role", "admin")] }]

/-- The caller has two roles and two lists of scopes, and what is required comes second. -/
def secondRole : List Event :=
  let claims : Claims :=
    ⟨[("role", "user"), ("scope", "openid read"), ("role", "admin"), ("scope", "mail write")]⟩
  let s : Surroundings := { now := 1, identify := fun _ _ => .ok claims }
  [.arrive ⟨.get, ⟨none, none, some ⟨"/a", none⟩⟩, {}, []⟩ ⟨.v4 127 0 0 1, 4000⟩ "" 0]
    ++ List.replicate 8 (.meet 0 (.pass s))
    ++ [.meet 0 (.answer 2 (.ok ⟨200, {}, []⟩))]
    ++ List.replicate 4 (.meet 0 (.pass s))

/-- The caller is served, for the second role and a scope of the second list. -/
theorem served_of_claims_secondRole :
    ∃ g r found claims,
      Gateway.ofConfig administrators = .ok g ∧
      ((Traffic.new g).after secondRole).run? 0 = some r ∧
      r.isServed = true ∧
      r.exchange.resolved = some found ∧
      found.route.authentication = some ⟨"key", ["write"]⟩ ∧
      found.route.claimsRequirement = [("role", "admin")] ∧
      r.exchange.claims = some claims ∧
      ("role", "admin") ∈ claims.pairs ∧
      ∃ v, ("scope", v) ∈ claims.pairs ∧ "write" ∈ Text.words v := by
  have hrun :
      ((Gateway.ofConfig administrators).toOption.map fun g =>
        (((Traffic.new g).after secondRole).run? 0).bind fun r =>
          r.exchange.resolved.map fun found =>
            (r.isServed, found.route.authentication, found.route.claimsRequirement)) =
      some (some (true, some ⟨"key", ["write"]⟩, [("role", "admin")])) := by
    decide +kernel
  obtain ⟨g, hg, hrun⟩ := exists_eq_ok_of_map hrun
  obtain ⟨r, hr, hrun⟩ := Option.bind_eq_some_iff.1 hrun
  obtain ⟨found, hfound, hrun⟩ := Option.map_eq_some_iff.1 hrun
  simp only [Prod.mk.injEq] at hrun
  obtain ⟨hserved, hp, hrequired⟩ := hrun
  obtain ⟨claims, hclaims, _, hall, hscope, _⟩ := served_of_claims hr hserved hfound hp
  refine ⟨g, r, found, claims, hg, hr, hserved, hfound, hp, hrequired, hclaims, ?_, ?_⟩
  · exact hall _ (hrequired ▸ List.mem_singleton_self _)
  · obtain ⟨v, hv, w, hw, hallowed⟩ := hscope (List.cons_ne_nil _ _)
    rw [List.mem_singleton] at hallowed
    exact ⟨v, hv, hallowed ▸ hw⟩

end SecondRole

end Traffic
end ApiGateway
