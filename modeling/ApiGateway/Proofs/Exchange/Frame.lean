import ApiGateway.Proofs.Exchange.PassedHeaders

/-!
# What a request keeps on its way to a backend

The request that is made for a backend differs from the inbound one in its target, in its method
where the route has one of its own, and under few names: those that belong to one connection and the
host are left out, the origin is recorded under four names, and the route may have headers that are
made of claims and one for the request identifier. Under all other names the values are the inbound
ones in their order, and the body is the inbound one.

Main statement: `keeps_rest_of_buildOutbound`.
-/

namespace ApiGateway

/-- The names under which the origin of a request is recorded. -/
def HeaderName.ofOrigin : List HeaderName :=
  [.forwardedFor, .forwardedProto, .forwardedHost, .realIp]

/-- A route has a header under a name that is made of claims. -/
def Route.TellsClaimAs (r : Route) (n : HeaderName) : Prop :=
  ∃ e ∈ r.headersFromClaims, HeaderName.ofText? e.key = some n

/-- A route has a header under a name: one that is made of claims, or for the request identifier. -/
def Route.Sets (r : Route) (n : HeaderName) : Prop :=
  r.TellsClaimAs n ∨ r.requestIdKey = some n

instance (r : Route) (n : HeaderName) : Decidable (r.TellsClaimAs n) :=
  inferInstanceAs (Decidable (∃ e ∈ r.headersFromClaims, HeaderName.ofText? e.key = some n))

instance (r : Route) (n : HeaderName) : Decidable (r.Sets n) :=
  inferInstanceAs (Decidable (r.TellsClaimAs n ∨ r.requestIdKey = some n))

namespace Headers

theorem recorded?_eq_none
    (h : Headers)
    (ip host : String)
    {n : HeaderName}
    (hn : n ∉ HeaderName.ofOrigin) :
    h.recorded? ip host n = none := by
  simp only [HeaderName.ofOrigin, List.mem_cons, List.not_mem_nil, or_false, not_or] at hn
  obtain ⟨hfor, hproto, hhost, hreal⟩ := hn
  rw [recorded?, if_neg hfor, if_neg hproto, if_neg hhost, if_neg hreal]

theorem contains_of_mem
    {h : Headers}
    {f : HeaderName × HeaderValue}
    (hf : f ∈ h.fields) :
    h.contains f.1 = true :=
  List.any_eq_true.2 ⟨f, hf, decide_eq_true rfl⟩

end Headers

namespace Exchange

variable {x : Exchange}
variable {n : HeaderName}

/-- Outside of the names of the origin, what is passed on are the inbound values or nothing. -/
theorem passedOn_of_notMem (hn : n ∉ HeaderName.ofOrigin) :
    x.passedOn n =
      if n ∈ HeaderName.hopByHop ∨ n = .host then [] else x.request.headers.getAll n := by
  rw [passedOn, recorded?, Headers.recorded?_eq_none _ _ _ hn]

/-- The address of the peer is always passed on. -/
theorem passedOn_realIp : x.passedOn .realIp = [Bytes.ofText x.peer.ip.print] := by
  rw [passedOn, recorded?, Headers.recorded?, if_neg (by decide), if_neg (by decide),
    if_neg (by decide), if_pos rfl]

section Building

variable {r : Route}
variable {headers : Headers}

/-- Under a name for which the route has no header the backend receives what is passed on. -/
theorem getAll_eq_passedOn_of_not_sets
    (h : x.outboundHeaders r = .ok headers)
    (hn : ¬ r.Sets n) :
    headers.getAll n = x.passedOn n := by
  obtain ⟨hclaims, hkey⟩ := not_or.1 hn
  rcases getAll_of_outboundHeaders h n fun hid _ _ => absurd hid hkey with
    ⟨e, he, _, hname, _⟩ | ⟨_, hpassed⟩
  · exact absurd ⟨e, he, hname⟩ hclaims
  · rwa [if_neg fun hid => hkey hid.1] at hpassed

/-- A request identifier takes the place of nothing that is passed on. -/
theorem getAll_eq_passedOn_of_ne_nil
    (h : x.outboundHeaders r = .ok headers)
    (hclaims : ¬ r.TellsClaimAs n)
    (hne : x.passedOn n ≠ []) :
    headers.getAll n = x.passedOn n := by
  rcases getAll_of_outboundHeaders h n fun _ _ hnil => absurd hnil hne with
    ⟨e, he, _, hname, _⟩ | ⟨_, hpassed⟩
  · exact absurd ⟨e, he, hname⟩ hclaims
  · rwa [if_neg fun hid => hne hid.2] at hpassed

/-- The parts of a request that was made for a backend. -/
theorem exists_of_buildOutbound
    {q : Request}
    (h : x.buildOutbound = .ok q) :
    ∃ found uri,
      x.resolved = some found ∧
      x.outboundHeaders found.route = .ok q.headers ∧
      q = ⟨found.route.downstreamMethod.getD x.request.method, uri, q.headers, x.request.body⟩ := by
  obtain ⟨found, hroute, h⟩ := bind_eq_ok.1 h
  obtain ⟨target, _, h⟩ := bind_eq_ok.1 h
  obtain ⟨headers, hheaders, h⟩ := bind_eq_ok.1 h
  split at h
  · cases h
  · cases h
    exact ⟨found, _, route_eq_ok_iff.1 hroute, hheaders, rfl⟩

end Building

/-- What a request to a backend has of the exchange and of the route that it was made for. -/
structure KeepsRest (x : Exchange) (r : Route) (q : Request) : Prop where
  /-- The values under any other name are the inbound ones in their order. -/
  others : ∀ n, n ∉ HeaderName.hopByHop → n ≠ .host → n ∉ HeaderName.ofOrigin → ¬ r.Sets n →
    q.headers.getAll n = x.request.headers.getAll n
  /-- No name is there that was not inbound, nor of the origin, nor of the route. -/
  names : ∀ f ∈ q.headers.fields,
    x.request.headers.contains f.1 = true ∨ f.1 ∈ HeaderName.ofOrigin ∨ r.Sets f.1
  /-- What belongs to one connection and the host are gone unless the route has a header there. -/
  dropped : ∀ n, n ∈ HeaderName.hopByHop ∨ n = .host → ¬ r.Sets n →
    q.headers.contains n = false
  /-- The address of the peer is told unless a claim takes its place. -/
  peer : ¬ r.TellsClaimAs .realIp → q.headers.getAll .realIp = [Bytes.ofText x.peer.ip.print]
  method : q.method = r.downstreamMethod.getD x.request.method
  body : q.body = x.request.body

/-- A request that is made for a backend keeps everything that it does not have to write. -/
theorem keeps_rest_of_buildOutbound
    {q : Request}
    (h : x.buildOutbound = .ok q) :
    ∃ found, x.resolved = some found ∧ x.KeepsRest found.route q := by
  obtain ⟨found, uri, hfound, hheaders, hq⟩ := exists_of_buildOutbound h
  have hother : ∀ n, n ∉ HeaderName.ofOrigin → ¬ found.route.Sets n → q.headers.getAll n =
      if n ∈ HeaderName.hopByHop ∨ n = .host then [] else x.request.headers.getAll n :=
    fun n horigin hsets =>
      (getAll_eq_passedOn_of_not_sets hheaders hsets).trans (passedOn_of_notMem horigin)
  refine ⟨found, hfound, ?_, ?_, ?_, ?_, ?_, ?_⟩
  · intro n hhop hhost horigin hsets
    rw [hother n horigin hsets, if_neg (not_or.2 ⟨hhop, hhost⟩)]
  · intro f hf
    by_cases horigin : f.1 ∈ HeaderName.ofOrigin
    · exact .inr (.inl horigin)
    by_cases hsets : found.route.Sets f.1
    · exact .inr (.inr hsets)
    refine .inl (Headers.contains_iff _ _ |>.2 fun hnil => ?_)
    have hsent := (Headers.contains_iff _ _).1 (Headers.contains_of_mem hf)
    rw [hother f.1 horigin hsets, hnil, ite_self] at hsent
    exact hsent rfl
  · intro n hgone hsets
    have horigin : n ∉ HeaderName.ofOrigin := by
      have hall : ∀ m ∈ .host :: HeaderName.hopByHop, m ∉ HeaderName.ofOrigin := by
        decide
      exact hall n (List.mem_cons.2 hgone.symm)
    rw [← Bool.not_eq_true, Headers.contains_iff, not_not, hother n horigin hsets, if_pos hgone]
  · intro hclaims
    rw [← passedOn_realIp]
    refine getAll_eq_passedOn_of_ne_nil hheaders hclaims ?_
    rw [passedOn_realIp]
    exact List.cons_ne_nil _ _
  · rw [hq]
  · rw [hq]

section Overlapping

/--
A route that has the subject of the caller as a header that else belongs to one connection, and the
request identifier where the address of the peer has its place.
-/
def overlapping : Config.Route where
  upstreamPathTemplate := "/a"
  downstreamPathTemplate := "/x"
  downstreamHttpMethod := some "POST"
  downstreamHosts := [⟨"h", 1⟩]
  addHeaders := .ofPairs [("TE", "Claims[sub] > value")]
  requestIdKey := some "X-Real-IP"

/-- Alice sends two tags, something for the connection, and an address that is not hers. -/
def tagged (r : Route) : Exchange where
  request :=
    ⟨.get, ⟨none, none, some ⟨"/a", none⟩⟩,
      ⟨[(⟨"x-tag"⟩, Bytes.ofText "1"), (⟨"te"⟩, Bytes.ofText "trailers"),
        (.host, Bytes.ofText "gw.test"), (.realIp, Bytes.ofText "192.0.2.1"),
        (⟨"connection"⟩, Bytes.ofText "close"), (⟨"x-tag"⟩, Bytes.ofText "2")]⟩,
      Bytes.ofText "body"⟩
  peer := ⟨.v4 10 0 0 9, 5555⟩
  requestId := "0a"
  start := 0
  resolved := some ⟨r, ⟨[], "/a"⟩, "/x"⟩
  claims := some ⟨[("sub", "alice")]⟩

/-- Both tags reach the backend, and the address of the peer does; the connection stays here. -/
theorem keeps_rest_of_buildOutbound_overlapping :
    ∃ r q,
      Route.compile 0 {} overlapping = .ok r ∧
      (tagged r).buildOutbound = .ok q ∧
      q.headers.getAll ⟨"x-tag"⟩ = [Bytes.ofText "1", Bytes.ofText "2"] ∧
      q.headers.contains ⟨"connection"⟩ = false ∧
      q.headers.getAll .realIp = [Bytes.ofText "10.0.0.9"] ∧
      q.method = ⟨"POST"⟩ ∧
      q.body = Bytes.ofText "body" := by
  have hrun :
      (Route.compile 0 {} overlapping).toOption.map (fun r =>
        ((tagged r).buildOutbound.toOption.map fun _ =>
          decide (¬ r.Sets ⟨"x-tag"⟩ ∧ ¬ r.Sets ⟨"connection"⟩ ∧ ¬ r.TellsClaimAs .realIp ∧
            r.downstreamMethod = some ⟨"POST"⟩))) =
      some (some true) := by
    decide +kernel
  obtain ⟨r, hr, hrun⟩ := exists_eq_ok_of_map hrun
  obtain ⟨q, hq, hrun⟩ := exists_eq_ok_of_map hrun
  obtain ⟨htag, hconnection, hreal, hmethod⟩ := of_decide_eq_true hrun
  obtain ⟨found, hfound, hkeeps⟩ := keeps_rest_of_buildOutbound hq
  obtain rfl := Option.some.inj hfound
  refine ⟨r, q, hr, hq, ?_, hkeeps.dropped _ (by decide) hconnection, hkeeps.peer hreal, ?_,
    hkeeps.body⟩
  · exact hkeeps.others _ (by decide) (by decide) (by decide) htag
  · rw [hkeeps.method, hmethod]
    rfl

end Overlapping

end Exchange
end ApiGateway
