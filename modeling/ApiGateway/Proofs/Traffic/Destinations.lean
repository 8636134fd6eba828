import ApiGateway.Proofs.Http.Addresses
import ApiGateway.Proofs.Run.Provisions
import ApiGateway.Proofs.Traffic.Runs

/-!
# Where calls go

A backend is called under the scheme of the route and at the endpoint that is on lease, and what is
sent there as path and query is what the request to the backend was made with. The path that is
asked for, its query and the claims of the caller have their place behind the authority, whatever
characters they hold, since the target that is made of them begins with a slash.

Main statement: `called_at_leased_endpoint`.
-/

namespace ApiGateway

namespace Exchange

variable {x : Exchange}
variable {found : ResolvedRoute}

/-- The target of a route is its downstream path and what comes behind it. -/
theorem rooted_of_targetOf
    {query : Option String}
    {claims : Claims}
    {target : String}
    (hpath : IsRooted found.downstreamPath)
    (h : targetOf found query claims = .ok target) :
    IsRooted target := by
  obtain ⟨added, _, h⟩ := bind_eq_ok.1 h
  cases h
  unfold joinTarget
  split
  · exact hpath
  · rw [String.append_assoc]
    exact hpath.append _

/-- A request to a backend is made with a path, whatever it is made of. -/
theorem exists_path_of_buildOutbound
    {built : Request}
    (hfound : x.resolved = some found)
    (hpath : IsRooted found.downstreamPath)
    (h : x.buildOutbound = .ok built) :
    ∃ pq, built.uri.pathAndQuery = some pq ∧ pq.WellFormed := by
  obtain ⟨_, _, h⟩ := bind_eq_ok.1 h
  obtain ⟨target, htarget, h⟩ := bind_eq_ok.1 h
  obtain ⟨found', hfound', htarget⟩ := bind_eq_ok.1 htarget
  obtain rfl := Option.some.inj (hfound.symm.trans (route_eq_ok_iff.1 hfound'))
  obtain ⟨cs, hcs⟩ := rooted_of_targetOf hpath htarget
  obtain ⟨headers, _, h⟩ := bind_eq_ok.1 h
  split at h
  · cases h
  rename_i uri huri
  obtain ⟨pq, rfl, hpq⟩ := Uri.exists_of_read_slash hcs huri
  cases h
  exact ⟨pq, rfl, hpq⟩

/-- An addressed request of a valid route goes to what is on lease, and takes its path there. -/
theorem Addresses.goes_to_lease
    {q : Request}
    (haddresses : x.Addresses q)
    (hrouted : x.IsRouted)
    (hfound : x.resolved = some found)
    (hvalid : found.route.IsValid) :
    ∃ l built pq,
      x.lease = some l ∧
      x.buildOutbound = .ok built ∧
      built.uri.pathAndQuery = some pq ∧
      (l.service.HasPlainHost →
        q.uri = ⟨some found.route.downstreamScheme, some l.service.endpoint, some pq⟩ ∧
        q.headers.getAll .host = [Bytes.ofText l.service.endpoint]) := by
  obtain ⟨htemplate, hscheme⟩ := hvalid.addressing
  obtain ⟨found', l, built, hfound', hl, hbuild, hsend⟩ := haddresses
  obtain rfl := Option.some.inj (hfound.symm.trans hfound')
  obtain ⟨found', hfound', hpath⟩ := hrouted
  obtain rfl := Option.some.inj (hfound.symm.trans hfound')
  have hrooted := Template.rooted_of_substitute htemplate hpath
  obtain ⟨pq, hpq, hwell⟩ := exists_path_of_buildOutbound hfound hrooted hbuild
  exact ⟨l, built, pq, hl, hbuild, hpq, fun hplain =>
    Request.sendTo_plain hscheme hplain hpq hwell hsend⟩

end Exchange

namespace Traffic

/-- At an event, a request gets a cause for refusal from outside the gateway. -/
def Hears (id : Nat) (cause : GatewayError) (t : Traffic) (e : Event) : Prop :=
  ∃ r e', e = .meet id e' ∧ t.pending? id = some r ∧ r.Hears e' cause

/-- In the course of events, a request got a cause for refusal from outside the gateway. -/
def Heard (g : Gateway) (events : List Event) (id : Nat) (cause : GatewayError) : Prop :=
  (Traffic.new g).Happened events (Hears id cause)

section Runs

variable {g : Gateway}
variable {events : List Event}
variable {id : Nat}

/-- No run ever misses anything, whatever happens. -/
theorem equipped_of_run?
    {r : Run}
    (hr : ((Traffic.new g).after events).run? id = some r) :
    r.Equipped (Heard g events id) := by
  refine run_invariant (P := fun events id r => r.Equipped (Heard g events id)) ?_ ?_ ?_ hr
  · intro events id request peer requestId now
    exact Run.equipped_start request peer requestId now
  · intro events e id r hr
    exact hr.mono fun cause hcause => hcause.append [e]
  · intro events id r e next hpending hmoves hr
    refine hmoves.equipped (hr.mono fun cause hcause => hcause.append _) fun cause hcause => ?_
    exact happened_last ⟨r, e, rfl, hpending, hcause⟩

section Calls

variable {x : Exchange}
variable {call : BackendCall}
variable {rest : List Stage}

/-- A run that waits for its backend was addressed, and its answer is mapped next. -/
theorem ahead_of_calling
    (hr : ((Traffic.new g).after events).run? id = some ⟨x, .calling call rest⟩) :
    rest = Stage.standard.drop 8 ∧ x.Addresses call.request := by
  cases equipped_of_run? hr with
  | calling hsuffix _ _ haddresses =>
      have hrest := Stage.rest_eq_of_suffix hsuffix (List.drop_suffix 8 Stage.standard)
      exact ⟨congrArg _ hrest, haddresses⟩

/-- Whatever happens to a run that waits for its backend, it goes on asking for the same. -/
theorem inquiry_of_calling
    {later : List Event}
    {r : Run}
    (hr : ((Traffic.new g).after events).run? id = some ⟨x, .calling call rest⟩)
    (hr' : ((Traffic.new g).after (events ++ later)).run? id = some r) :
    r.exchange.inquiry = x.inquiry := by
  obtain ⟨rfl, _⟩ := ahead_of_calling hr
  have hpast : .routeResolution ∉ Stage.standard.drop 8 ∧
      .authentication ∉ Stage.standard.drop 8 := by
    decide
  rw [after_append] at hr'
  exact (later_of_after hr hr').inquiry hpast.1 hpast.2

end Calls

end Runs

/--
In any traffic, a call of a valid route that got a plain host on lease is sent to it: under the
scheme of the route, with the endpoint as authority and as host, and with the path and the query of
the request that was made for the backend, whatever the caller asks for and claims.
-/
theorem called_at_leased_endpoint
    {g : Gateway}
    {events : List Event}
    {id : Nat}
    {x : Exchange}
    {call : BackendCall}
    {rest : List Stage}
    {found : ResolvedRoute}
    (hcalling : ((Traffic.new g).after events).pending? id = some ⟨x, .calling call rest⟩)
    (hfound : x.resolved = some found)
    (hvalid : found.route.IsValid) :
    ∃ l built pq,
      x.lease = some l ∧
      x.buildOutbound = .ok built ∧
      built.uri.pathAndQuery = some pq ∧
      (l.service.HasPlainHost →
        call.request.uri =
          ⟨some found.route.downstreamScheme, some l.service.endpoint, some pq⟩ ∧
        call.request.headers.getAll .host = [Bytes.ofText l.service.endpoint]) := by
  cases equipped_of_run? (pending?_eq_some_iff_run?.1 hcalling).1 with
  | calling _ _ hrouted haddresses => exact haddresses.goes_to_lease hrouted hfound hvalid

section Elsewhere

/-- A configuration whose route passes a whole path on, and a claim of the caller with it. -/
def passingOn : Config.Gateway where
  routes := [{
    upstreamPathTemplate := "/go/\x7brest\x7d"
    downstreamPathTemplate := "/\x7brest\x7d"
    downstreamHosts := [⟨"one.example", 8080⟩]
    authentication := some ⟨"key", []⟩
    addQueries := .ofPairs [("user", "Claims[sub] > value")] }]

/-- A caller tries to be sent elsewhere by the path, by the query and by a claim. -/
def elsewhere : List Event :=
  let query := "to=//evil@two:1&user=http://two"
  let path := "/go//two.example:81/@x%2e"
  let request : Request := ⟨.get, ⟨none, none, some ⟨path, some query⟩⟩, {}, []⟩
  let eve : Surroundings := { now := 1, identify := fun _ _ => .ok ⟨[("sub", "@two:80/?#")]⟩ }
  .arrive request ⟨.v4 127 0 0 1, 4000⟩ "" 1 :: List.replicate 8 (.meet 0 (.pass eve))

/-- The call goes to the one backend, with all of this behind its authority. -/
theorem called_at_leased_endpoint_elsewhere :
    ∃ g x call rest found l built pq,
      Gateway.ofConfig passingOn = .ok g ∧
      ((Traffic.new g).after elsewhere).pending? 0 = some ⟨x, .calling call rest⟩ ∧
      x.resolved = some found ∧
      found.route.IsValid ∧
      x.lease = some l ∧
      l.service.HasPlainHost ∧
      l.service.endpoint = "one.example:8080" ∧
      x.buildOutbound = .ok built ∧
      built.uri.pathAndQuery = some pq ∧
      pq.path = "//two.example:81/@x%2e" ∧
      pq.query = some "to=//evil@two:1&user=%40two%3A80%2F%3F%23" ∧
      call.request.uri = ⟨some "http", some "one.example:8080", some pq⟩ ∧
      call.request.headers.getAll .host = [Bytes.ofText "one.example:8080"] := by
  have hrun :
      ((Gateway.ofConfig passingOn).toOption.map fun g =>
        (((Traffic.new g).after elsewhere).pending? 0).bind fun r =>
          r.call?.bind fun call =>
            r.exchange.resolved.bind fun found =>
              r.exchange.lease.map fun l =>
                decide (found.route ∈ g.table.routes ∧
                  found.route.downstreamScheme = "http" ∧
                  l.service.HasPlainHost ∧
                  l.service.endpoint = "one.example:8080" ∧
                  call.request.uri.pathAndQuery =
                    some ⟨"//two.example:81/@x%2e",
                      some "to=//evil@two:1&user=%40two%3A80%2F%3F%23"⟩)) =
      some (some true) := by
    decide +kernel
  have hchecked : passingOn.validate.toOption.map id = some () := by decide +kernel
  obtain ⟨_, hvalid, _⟩ := exists_eq_ok_of_map hchecked
  obtain ⟨g, hg, hrun⟩ := exists_eq_ok_of_map hrun
  obtain ⟨⟨x, phase⟩, hpending, hrun⟩ := Option.bind_eq_some_iff.1 hrun
  obtain ⟨call, hcall, hrun⟩ := Option.bind_eq_some_iff.1 hrun
  obtain ⟨found, hfound, hrun⟩ := Option.bind_eq_some_iff.1 hrun
  obtain ⟨l, hl, hrun⟩ := Option.map_eq_some_iff.1 hrun
  obtain ⟨hroute, hscheme, hplain, hendpoint, htarget⟩ := of_decide_eq_true hrun
  cases phase with
  | passing rest => cases hcall
  | ended response => cases hcall
  | calling call' rest =>
      obtain rfl := Option.some.inj hcall
      obtain ⟨table, htable, hgateway⟩ := bind_eq_ok.1 hg
      cases hgateway
      have hisValid := RouteTable.isValid_of_mem_compile hvalid htable hroute
      obtain ⟨l', built, pq, hl', hbuild, hpq, hsent⟩ :=
        called_at_leased_endpoint hpending hfound hisValid
      obtain rfl := Option.some.inj (hl.symm.trans hl')
      obtain ⟨huri, hhost⟩ := hsent hplain
      rw [hscheme, hendpoint] at huri
      rw [hendpoint] at hhost
      rw [huri] at htarget
      obtain rfl := Option.some.inj htarget
      exact ⟨_, x, call', rest, found, l, built, _, hg, hpending, hfound, hisValid, hl, hplain,
        hendpoint, hbuild, hpq, rfl, rfl, huri, hhost⟩

end Elsewhere

end Traffic
end ApiGateway
