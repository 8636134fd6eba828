import ApiGateway.Proofs.Exchange.PassedHeaders
import ApiGateway.Proofs.Traffic.Admission
import ApiGateway.Proofs.Traffic.Destinations

/-!
# Headers made of claims

On a route that makes headers of claims, a backend receives each of them with one value only, which
was taken from the claims of the caller who was identified for this very request. Neither what the
caller sends under such a name, nor what the gateway records about the origin of a request, nor the
request identifier is there beside it. A caller who was not asked for has no claims, and then no
backend is called.

Main statement: `claim_header_of_call`.
-/

namespace ApiGateway

/-- An expression takes nothing where nothing is claimed. -/
theorem ClaimsExpression.extract_empty_ne_ok
    (e : ClaimsExpression)
    (value : String) :
    e.extract {} ≠ .ok value :=
  nofun

namespace Traffic

open Stage (standard)

/-- Only who is asked for has claims, and only once this has been done. -/
structure Unasked (x : Exchange) (ahead : List Stage) : Prop where
  ahead : .authentication ∈ ahead → x.claims = none
  without : ∀ found, x.resolved = some found → found.route.authentication = none →
    x.claims = none

section Stages

variable {s : Surroundings}
variable {gw : Gateway}
variable {x y : Exchange}
variable {rest : List Stage}

theorem Unasked.congr
    (h : Unasked x rest)
    (hy : y.inquiry = x.inquiry) :
    Unasked y rest := by
  obtain ⟨_, hresolved, hclaims⟩ := Exchange.inquiry_eq_iff.1 hy
  refine ⟨fun hahead => hclaims.trans (h.ahead hahead), fun found hfound hnone => ?_⟩
  exact hclaims.trans (h.without found (hresolved ▸ hfound) hnone)

theorem unasked_resolveRoute
    (h : x.claims = none) :
    Unasked (Stage.resolveRoute gw x).exchange rest := by
  rcases Stage.resolveRoute_cases gw x with ⟨e, _, hpass⟩ | ⟨r, _, hpass⟩ <;> rw [hpass] <;>
    exact ⟨fun _ => h, fun _ _ _ => h⟩

theorem unasked_authenticate
    (h : x.claims = none)
    (hrest : .authentication ∉ rest) :
    Unasked (Stage.authenticate s gw x).exchange rest := by
  refine ⟨fun hahead => absurd hahead hrest, fun found hfound hnone => ?_⟩
  rcases Stage.authenticate_cases s gw x with
    ⟨_, hpass⟩ | ⟨r, _, _, hpass⟩ | ⟨r, p, claims, hr, hp, _, hpass⟩ | ⟨r, p, e, _, _, _, hpass⟩ <;>
    rw [hpass] at hfound ⊢
  · exact h
  · exact h
  · obtain rfl := Option.some.inj (hr.symm.trans hfound)
    rw [hp] at hnone
    cases hnone
  · exact h

theorem Unasked.pass
    {stage : Stage}
    {p : Passage}
    (h : Unasked x (stage :: rest))
    (hsuffix : stage :: rest <:+ standard)
    (hp : stage.Passes s gw x p) :
    Unasked p.exchange rest := by
  by_cases hroute : stage = .routeResolution
  · subst hroute
    obtain rfl := hp.eq_pass nofun
    rw [Stage.rest_eq_of_suffix hsuffix (List.suffix_refl standard)] at h
    exact unasked_resolveRoute (h.ahead (by decide))
  by_cases hauthentication : stage = .authentication
  · subst hauthentication
    obtain rfl := hp.eq_pass nofun
    refine unasked_authenticate (h.ahead List.mem_cons_self) ?_
    rw [Stage.rest_eq_of_suffix hsuffix (List.drop_suffix 2 standard)]
    decide
  have hrest : Unasked x rest := ⟨fun hahead => h.ahead (List.mem_cons_of_mem _ hahead), h.without⟩
  exact hrest.congr (hp.frame.inquiry (by simp [hroute, hauthentication]))

/-- Nobody in traffic has claims who was not asked for. -/
theorem tracks_unasked (g : Gateway) :
    Tracks g (fun _ _ => Unasked) (fun _ _ _ => True) where
  start _ _ _ _ _ _ := ⟨fun _ => rfl, fun _ _ _ => rfl⟩
  keep h := h
  keepEnd _ := trivial
  pass _ hsuffix hp _ h := h.pass hsuffix hp
  answer _ h := h.congr rfl
  respond _ _ _ _ _ := trivial
  finish _ := trivial

end Stages

section Calls

variable {g : Gateway}
variable {events : List Event}
variable {id : Nat}
variable {x : Exchange}
variable {call : BackendCall}
variable {rest : List Stage}
variable {found : ResolvedRoute}

/-- Claims that a call makes use of are those of a caller who was identified for the request. -/
theorem identified_of_call
    (hcalling : ((Traffic.new g).after events).pending? id = some ⟨x, .calling call rest⟩)
    (hfound : x.resolved = some found)
    {e : ClaimsExpression}
    {value : String}
    (hvalue : e.extract x.callerClaims = .ok value) :
    ∃ p claims,
      found.route.authentication = some p ∧
      x.claims = some claims ∧
      (Traffic.new g).Happened events (Identifies id x p claims) := by
  have hr := (pending?_eq_some_iff_run?.1 hcalling).1
  have hrest : .authentication ∉ rest := by
    rw [(ahead_of_calling hr).1]
    decide
  obtain ⟨_, hunasked⟩ := ((tracks_unasked g).tracked hr).of_calling
  obtain ⟨_, hadmitted⟩ := ((tracks_admitted g).tracked hr).of_calling
  cases hp : found.route.authentication with
  | none =>
      rw [Exchange.callerClaims, hunasked.without found hfound hp] at hvalue
      exact absurd hvalue (e.extract_empty_ne_ok value)
  | some p =>
      obtain ⟨claims, hclaims, hidentified⟩ := hadmitted.known hrest found p hfound hp
      exact ⟨p, claims, rfl, hclaims, hidentified⟩

/--
A call of a backend has each header that is made of claims, other than the host, with one value:
what an expression that is configured for this name, in whatever case, takes from the claims of the
caller who was identified for this request.
-/
theorem claim_header_of_call
    {generation : Nat}
    {global : Config.Global}
    {c : Config.Route}
    (hcalling : ((Traffic.new g).after events).pending? id = some ⟨x, .calling call rest⟩)
    (hfound : x.resolved = some found)
    (hroute : Route.compile generation global c = .ok found.route)
    {setting : String × String}
    (hsetting : setting ∈ c.addHeaders.pairs)
    (hhost : HeaderName.ofText? setting.1 ≠ some .host) :
    ∃ n p claims configured e value,
      HeaderName.ofText? setting.1 = some n ∧
      found.route.authentication = some p ∧
      x.claims = some claims ∧
      (Traffic.new g).Happened events (Identifies id x p claims) ∧
      configured ∈ c.addHeaders.pairs ∧
      HeaderName.ofText? configured.1 = some n ∧
      ClaimsExpression.parse configured.1 configured.2 = .ok e ∧
      e.extract claims = .ok value ∧
      call.request.headers.getAll n = [Bytes.ofText value] := by
  obtain ⟨hsettings, hexpressions⟩ := Route.headerSettings_of_compile hroute
  obtain ⟨n, own, hown, hn, hparse⟩ := hsettings setting hsetting
  have hkey : HeaderName.ofText? own.key = some n := ClaimsExpression.key_of_parse hparse ▸ hn
  have hne : n ≠ .host := fun heq => hhost (heq ▸ hn)
  have haddresses := (ahead_of_calling (pending?_eq_some_iff_run?.1 hcalling).1).2
  obtain ⟨headers, hheaders, hsent⟩ := Exchange.exists_headers_of_addresses haddresses hfound
  rcases Exchange.getAll_of_outboundHeaders hheaders n
      (fun _ hnone => absurd hkey (hnone own hown)) with
    ⟨e, he, value, hname, hvalue, hone⟩ | ⟨hnone, _⟩
  · obtain ⟨p, claims, hp, hclaims, hidentified⟩ := identified_of_call hcalling hfound hvalue
    obtain ⟨n', configured, hconfigured, hn', hread⟩ := hexpressions e he
    rw [ClaimsExpression.key_of_parse hread] at hname
    refine ⟨n, p, claims, configured, e, value, hn, hp, hclaims, hidentified, hconfigured,
      hname, hread, ?_, (hsent n hne).trans hone⟩
    rwa [Exchange.callerClaims, hclaims] at hvalue
  · exact absurd hkey (hnone own hown)

end Calls

section Forged

/-- A configuration whose route tells the caller where the forwarding chain has its place. -/
def tellingCallers : Config.Gateway where
  routes := [{
    upstreamPathTemplate := "/a"
    downstreamPathTemplate := "/x"
    downstreamHosts := [⟨"one.example", 80⟩]
    authentication := some ⟨"key", []⟩
    addHeaders := .ofPairs [("X-Forwarded-For", "Claims[sub] > value")]
    requestIdKey := some "x-forwarded-for" }]

/--
Eve says twice that she is Alice, under a name that is at once that of the header, of the forwarding
chain and of the identifier.
-/
def forged : List Event :=
  let alice : HeaderName × HeaderValue := (.forwardedFor, Bytes.ofText "alice")
  let request : Request := ⟨.get, ⟨none, none, some ⟨"/a", none⟩⟩, ⟨[alice, alice]⟩, []⟩
  let s : Surroundings := { now := 1, identify := fun _ _ => .ok ⟨[("sub", "eve")]⟩ }
  .arrive request ⟨.v4 127 0 0 1, 4000⟩ "" 1 :: List.replicate 8 (.meet 0 (.pass s))

/-- The backend is told of Eve alone. -/
theorem claim_header_of_call_forged :
    ∃ g x call rest claims,
      Gateway.ofConfig tellingCallers = .ok g ∧
      ((Traffic.new g).after forged).pending? 0 = some ⟨x, .calling call rest⟩ ∧
      x.request.headers.getAll .forwardedFor = [Bytes.ofText "alice", Bytes.ofText "alice"] ∧
      x.claims = some claims ∧
      claims.get? "sub" = some "eve" ∧
      call.request.headers.getAll .forwardedFor = [Bytes.ofText "eve"] := by
  have hrun :
      ((Gateway.ofConfig tellingCallers).toOption.map fun g =>
        (((Traffic.new g).after forged).pending? 0).bind fun r =>
          r.call?.bind fun _ =>
            r.exchange.resolved.bind fun found =>
              r.exchange.claims.map fun claims =>
                decide (found.route ∈ g.table.routes ∧
                  claims.get? "sub" = some "eve" ∧
                  r.exchange.request.headers.getAll .forwardedFor =
                    [Bytes.ofText "alice", Bytes.ofText "alice"])) =
      some (some true) := by
    decide +kernel
  have hsettings : (Dictionary.ofPairs [("X-Forwarded-For", "Claims[sub] > value")]).pairs =
      [("X-Forwarded-For", "Claims[sub] > value")] := by
    decide +kernel
  have hname : HeaderName.ofText? "X-Forwarded-For" = some .forwardedFor := by
    decide +kernel
  have hread : ClaimsExpression.parse "X-Forwarded-For" "Claims[sub] > value" =
      .ok ⟨"X-Forwarded-For", "sub", none⟩ := by
    rw [ClaimsExpression.parse,
      show ClaimsExpression.read? "X-Forwarded-For" "Claims[sub] > value".toList =
        some ⟨"X-Forwarded-For", "sub", none⟩ by decide +kernel]
  obtain ⟨g, hg, hrun⟩ := exists_eq_ok_of_map hrun
  obtain ⟨⟨x, phase⟩, hpending, hrun⟩ := Option.bind_eq_some_iff.1 hrun
  obtain ⟨call, hcall, hrun⟩ := Option.bind_eq_some_iff.1 hrun
  obtain ⟨found, hfound, hrun⟩ := Option.bind_eq_some_iff.1 hrun
  obtain ⟨claims, hclaims, hrun⟩ := Option.map_eq_some_iff.1 hrun
  obtain ⟨hroute, hsub, hsent⟩ := of_decide_eq_true hrun
  obtain ⟨table, htable, hgateway⟩ := bind_eq_ok.1 hg
  cases hgateway
  obtain ⟨c, hc, hcompile⟩ := RouteTable.exists_of_mem_compile htable hroute
  obtain rfl := List.mem_singleton.1 hc
  cases phase with
  | passing rest => cases hcall
  | ended response => cases hcall
  | calling call' rest =>
      obtain ⟨n, p, claims', configured, e, value, hn, _, hclaims', _, hconfigured, _, hparse,
        hvalue, hone⟩ := claim_header_of_call hpending hfound hcompile
          (hsettings ▸ List.mem_singleton_self _) (hname ▸ by decide)
      obtain rfl := Option.some.inj (hclaims.symm.trans hclaims')
      obtain rfl := Option.some.inj (hname.symm.trans hn)
      obtain rfl := List.mem_singleton.1 (hsettings ▸ hconfigured)
      obtain rfl := Except.ok.inj (hread.symm.trans hparse)
      obtain rfl := Option.some.inj (hsub.symm.trans (ClaimsExpression.extract_whole_iff.1 hvalue))
      exact ⟨_, x, call', rest, claims, hg, hpending, hsent, hclaims, hsub, hone⟩

end Forged

end Traffic
end ApiGateway
