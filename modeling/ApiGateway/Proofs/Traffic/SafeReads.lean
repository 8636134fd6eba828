import ApiGateway.Proofs.Traffic.CachedAnswers
import ApiGateway.Proofs.Traffic.Destinations
import ApiGateway.Proofs.Traffic.Tables

/-!
# Safe reads

Whether the answer to a request may be kept is judged by the method of the request. A route may call
its backends with another method, and then what is kept is the answer to a call with that one. So
all answers that are kept are those to safe reads, and all requests that are answered from the cache
would have been calls of that kind, just where the routes do not ask for another kind of call.

Main statement: `caches_reads_iff_called_safely`.
-/

namespace ApiGateway

namespace Route

/-- The method with which the backends of a route are called for a request. -/
def callMethod (r : Route) (m : Method) : Method :=
  r.downstreamMethod.getD m

/-- The backends of a route are called with a method that is no safe read, whatever is asked for. -/
def CallsUnsafely (r : Route) : Prop :=
  ∃ m, r.downstreamMethod = some m ∧ Cache.isCacheable m = false

/-- A safe read becomes a safe read, unless the route asks for something else. -/
theorem isCacheable_callMethod_iff
    {r : Route}
    {m : Method}
    (h : Cache.isCacheable m = true) :
    Cache.isCacheable (r.callMethod m) = true ↔ ¬ r.CallsUnsafely := by
  unfold callMethod CallsUnsafely
  cases hm : r.downstreamMethod with
  | none => simpa using h
  | some m' => simp

end Route

/-- No route of a table has a cache and calls its backends with other methods than safe reads. -/
def RouteTable.CallsSafely (t : RouteTable) : Prop :=
  ∀ r ∈ t.routes, r.cache ≠ none → ¬ r.CallsUnsafely

/-- A backend is called with the method of the route, or else with that of the request. -/
theorem Exchange.Addresses.method
    {x : Exchange}
    {q : Request}
    (h : x.Addresses q) :
    ∃ found, x.resolved = some found ∧ q.method = found.route.callMethod x.request.method := by
  obtain ⟨found, l, built, hfound, _, hbuilt, hsent⟩ := h
  refine ⟨found, hfound, ?_⟩
  have hmethod : built.method = found.route.callMethod x.request.method := by
    obtain ⟨r, hr, h⟩ := bind_eq_ok.1 hbuilt
    obtain rfl := Option.some.inj (hfound.symm.trans (route_eq_ok_iff.1 hr))
    obtain ⟨_, _, h⟩ := bind_eq_ok.1 h
    obtain ⟨_, _, h⟩ := bind_eq_ok.1 h
    split at h
    · cases h
    · cases h
      rfl
  unfold Request.sendTo at hsent
  split at hsent
  · cases hsent
  · cases hsent
    exact hmethod

namespace Traffic

/-- A backend answers at an event the call of an exchange that was made with a method. -/
def AnswersCall
    (id : Nat)
    (x : Exchange)
    (method : Method)
    (answer : Response)
    (t : Traffic)
    (e : Event) : Prop :=
  ∃ now c rest,
    e = .meet id (.answer now (.ok answer)) ∧
    t.pending? id = some ⟨x, .calling c rest⟩ ∧
    c.request.method = method

section Runs

variable {g : Gateway}
variable {events : List Event}

/-- A run that was answered asks still what it has called for, with the method of its route. -/
theorem exists_answersCall
    {id : Nat}
    {r : Run}
    {found : ResolvedRoute}
    {answer : Response}
    (h : (Traffic.new g).Happened events (Answers id answer))
    (hr : ((Traffic.new g).after events).run? id = some r)
    (hfound : r.exchange.resolved = some found) :
    ∃ x,
      x.inquiry = r.exchange.inquiry ∧
      (Traffic.new g).Happened events
        (AnswersCall id x (found.route.callMethod x.request.method) answer) := by
  obtain ⟨before, e, later, rfl, now, x, c, rest, rfl, hpending⟩ := h
  have hcalling := (pending?_eq_some_iff_run?.1 hpending).1
  have hinquiry := inquiry_of_calling hcalling hr
  obtain ⟨found', hfound', hmethod⟩ := (ahead_of_calling hcalling).2.method
  obtain ⟨_, hresolved, _⟩ := Exchange.inquiry_eq_iff.1 hinquiry
  obtain rfl := Option.some.inj ((hresolved ▸ hfound).symm.trans hfound')
  exact ⟨x, hinquiry.symm, before, _, later, rfl, now, c, _, rfl, hpending, hmethod⟩

/-- What the cache holds is what was answered to a call of a request that is kept. -/
theorem exists_answersCall_of_getElem?
    {key : String}
    {entry : Cache.Entry}
    (hempty : g.cache.entries = ∅)
    (h : ((Traffic.new g).after events).gateway.cache.entries[key]? = some entry) :
    ∃ id x found answer,
      (Traffic.new g).Happened events
        (AnswersCall id x (found.route.callMethod x.request.method) answer) ∧
      entry.response = answer.withoutHops ∧
      x.resolved = some found ∧
      found.route.cache ≠ none ∧
      Cache.isCacheable x.request.method = true := by
  obtain ⟨before, e, later, w, rfl, hw, rfl, _, _⟩ := exists_write_of_getElem? hempty h
  obtain ⟨id, s, y, p, answer, rfl, hstores, hanswers, rfl⟩ := exists_stores_of_writes? hw
  obtain ⟨found, hfound, hp⟩ := hstores.policy
  obtain ⟨rest, hpending⟩ := hstores.pending
  obtain ⟨x, hinquiry, hcall⟩ :=
    exists_answersCall hanswers (pending?_eq_some_iff_run?.1 hpending).1 hfound
  obtain ⟨hrequest, hresolved, _⟩ := Exchange.inquiry_eq_iff.1 hinquiry
  exact ⟨id, x, found, answer, hcall.append _, rfl, hresolved.trans hfound,
    hp ▸ Option.some_ne_none p, hrequest.symm ▸ hstores.cacheable⟩

/-- The route of a call that was answered is one of a table that was in force. -/
theorem exists_table_of_answersCall
    {Q : RouteTable → Prop}
    (htable : Q g.table)
    (hevents : ∀ e ∈ events, e.PutsOnly Q)
    {id : Nat}
    {x : Exchange}
    {found : ResolvedRoute}
    {method : Method}
    {answer : Response}
    (h : (Traffic.new g).Happened events (AnswersCall id x method answer))
    (hfound : x.resolved = some found) :
    ∃ table, Q table ∧ found.route ∈ table.routes := by
  obtain ⟨before, e, later, rfl, now, c, rest, rfl, hpending, _⟩ := h
  obtain ⟨table, hQ, hresolve⟩ := exists_table_of_resolved htable
    (fun e' he' => hevents e' (List.mem_append_left _ he'))
    (pending?_eq_some_iff_run?.1 hpending).1 hfound
  exact ⟨table, hQ, RouteTable.mem_of_resolve hresolve⟩

/-- A request that is answered from the cache is a safe read on a route with a cache. -/
theorem exists_cached_of_isServed
    {config : Config.Gateway}
    (hg : Gateway.ofConfig config = .ok g)
    {id : Nat}
    {r : Run}
    (hr : ((Traffic.new g).after events).run? id = some r)
    (hserved : r.isServed = true)
    (hcached : r.exchange.servedFromCache = true) :
    ∃ found,
      r.exchange.resolved = some found ∧
      found.route.cache ≠ none ∧
      Cache.isCacheable r.exchange.request.method = true := by
  obtain ⟨o, hinquiry, _⟩ := exists_recall_of_isServed hg hr hserved hcached
  obtain ⟨hrequest, hresolved, _⟩ := Exchange.inquiry_eq_iff.1 hinquiry
  obtain ⟨found, hfound, hp⟩ := o.looksUp.policy
  exact ⟨found, hresolved.trans hfound, hp ▸ Option.some_ne_none o.serving,
    hrequest ▸ o.looksUp.cacheable⟩

end Runs

/-- Every response that the cache holds is the answer to a call with a safe read. -/
def HoldsReads (g : Gateway) (events : List Event) : Prop :=
  ∀ (key : String) (entry : Cache.Entry),
    ((Traffic.new g).after events).gateway.cache.entries[key]? = some entry →
    ∃ id x method answer,
      (Traffic.new g).Happened events (AnswersCall id x method answer) ∧
      entry.response = answer.withoutHops ∧
      Cache.isCacheable method = true

/-- Every request that is answered from the cache would have been a call with a safe read. -/
def RecallsReads (g : Gateway) (events : List Event) : Prop :=
  ∀ id r, ((Traffic.new g).after events).run? id = some r →
    r.isServed = true →
    r.exchange.servedFromCache = true →
    ∃ found,
      r.exchange.resolved = some found ∧
      Cache.isCacheable (found.route.callMethod r.exchange.request.method) = true

/--
In any traffic, what the cache holds was answered to a call of a safe read, made with the method
of its route; so the call was a safe read itself just when the route asks for nothing else, and the
same holds of the calls in whose place requests are answered from the cache. Where no table that is
in force has a route with a cache that asks for something else, all of them are safe reads.
-/
theorem caches_reads_iff_called_safely
    {config : Config.Gateway}
    {g : Gateway}
    (hg : Gateway.ofConfig config = .ok g)
    (events : List Event) :
    (∀ (key : String) (entry : Cache.Entry),
      ((Traffic.new g).after events).gateway.cache.entries[key]? = some entry →
      ∃ id x found method answer,
        (Traffic.new g).Happened events (AnswersCall id x method answer) ∧
        entry.response = answer.withoutHops ∧
        x.resolved = some found ∧
        found.route.cache ≠ none ∧
        Cache.isCacheable x.request.method = true ∧
        method = found.route.callMethod x.request.method ∧
        (Cache.isCacheable method = true ↔ ¬ found.route.CallsUnsafely)) ∧
    (∀ id r, ((Traffic.new g).after events).run? id = some r →
      r.isServed = true →
      r.exchange.servedFromCache = true →
      ∃ found,
        r.exchange.resolved = some found ∧
        found.route.cache ≠ none ∧
        Cache.isCacheable r.exchange.request.method = true ∧
        (Cache.isCacheable (found.route.callMethod r.exchange.request.method) = true ↔
          ¬ found.route.CallsUnsafely)) ∧
    (g.table.CallsSafely → (∀ e ∈ events, e.PutsOnly RouteTable.CallsSafely) →
      HoldsReads g events ∧ RecallsReads g events) := by
  have hempty := Gateway.cache_ofConfig hg
  refine ⟨fun key entry hentry => ?_, fun id r hr hserved hcached => ?_, fun htable hevents =>
    ⟨fun key entry hentry => ?_, fun id r hr hserved hcached => ?_⟩⟩
  · obtain ⟨id, x, found, answer, hcall, hresponse, hfound, hcache, hread⟩ :=
      exists_answersCall_of_getElem? hempty hentry
    exact ⟨id, x, found, _, answer, hcall, hresponse, hfound, hcache, hread, rfl,
      Route.isCacheable_callMethod_iff hread⟩
  · obtain ⟨found, hfound, hcache, hread⟩ := exists_cached_of_isServed hg hr hserved hcached
    exact ⟨found, hfound, hcache, hread, Route.isCacheable_callMethod_iff hread⟩
  · obtain ⟨id, x, found, answer, hcall, hresponse, hfound, hcache, hread⟩ :=
      exists_answersCall_of_getElem? hempty hentry
    refine ⟨id, x, _, answer, hcall, hresponse, (Route.isCacheable_callMethod_iff hread).2 ?_⟩
    obtain ⟨table, hsafe, hmem⟩ := exists_table_of_answersCall htable hevents hcall hfound
    exact hsafe found.route hmem hcache
  · obtain ⟨found, hfound, hcache, hread⟩ := exists_cached_of_isServed hg hr hserved hcached
    refine ⟨found, hfound, (Route.isCacheable_callMethod_iff hread).2 ?_⟩
    obtain ⟨table, hsafe, hresolve⟩ := exists_table_of_resolved htable hevents hr hfound
    exact hsafe found.route (RouteTable.mem_of_resolve hresolve) hcache

section Posted

/-- A configuration with a cached route that calls its backend with POST, whatever is asked for. -/
def readByPost : Config.Gateway where
  routes := [{
    upstreamPathTemplate := "/a"
    downstreamPathTemplate := "/a"
    downstreamHosts := [⟨"one", 80⟩]
    downstreamHttpMethod := some "POST"
    cache := some { ttlSeconds := 60 } }]

/-- A request is answered by the backend, and a second one like it comes a second later. -/
def readTwice : List Event :=
  let request : Request := ⟨.get, ⟨none, none, some ⟨"/a", none⟩⟩, {}, []⟩
  let answer : Response := ⟨200, {}, [0x63]⟩
  let second := Duration.ofSecs 1
  [.arrive request ⟨.v4 127 0 0 1, 4000⟩ "first" 0]
    ++ List.replicate 8 (.meet 0 (.pass { now := 0 }))
    ++ [.meet 0 (.answer 0 (.ok answer))]
    ++ List.replicate 4 (.meet 0 (.pass { now := 0 }))
    ++ [.arrive request ⟨.v4 127 0 0 1, 4001⟩ "second" second]
    ++ List.replicate 5 (.meet 1 (.pass { now := second }))

/-- What is kept is the answer to a POST, and the second request gets it in the place of a POST. -/
theorem caches_reads_iff_called_safely_readTwice :
    readByPost.validate = .ok () ∧
    ∃ g r,
      Gateway.ofConfig readByPost = .ok g ∧
      ((Traffic.new g).after readTwice).run? 1 = some r ∧
      r.isServed = true ∧
      r.exchange.servedFromCache = true ∧
      ¬ RecallsReads g readTwice ∧
      ∃ (key : String) (entry : Cache.Entry),
        ((Traffic.new g).after readTwice).gateway.cache.entries[key]? = some entry ∧
        ∃ id x method answer,
          (Traffic.new g).Happened readTwice (AnswersCall id x method answer) ∧
          entry.response = answer.withoutHops ∧
          Cache.isCacheable method = false := by
  have hchecked : readByPost.validate.toOption.map id = some () := by decide +kernel
  have hrun :
      ((Gateway.ofConfig readByPost).toOption.map fun g =>
        (decide (∀ r ∈ g.table.routes, r.downstreamMethod = some ⟨"POST"⟩),
          (((Traffic.new g).after readTwice).run? 1).map fun r =>
            (r.isServed, r.exchange.servedFromCache),
          ((Traffic.new g).after readTwice).gateway.cache.entries.toList.length)) =
      some (true, some (true, true), 1) := by
    decide +kernel
  obtain ⟨_, hvalid, _⟩ := exists_eq_ok_of_map hchecked
  obtain ⟨g, hg, hrun⟩ := exists_eq_ok_of_map hrun
  obtain ⟨hroutes, hrun⟩ := Prod.mk.inj hrun
  obtain ⟨hsecond, hsize⟩ := Prod.mk.inj hrun
  obtain ⟨r, hr, hsecond⟩ := Option.map_eq_some_iff.1 hsecond
  obtain ⟨hserved, hcached⟩ := Prod.mk.inj hsecond
  obtain ⟨⟨key, entry⟩, hentry⟩ := List.length_eq_one_iff.1 hsize
  have hentry := Std.ExtTreeMap.mem_toList_iff_getElem?_eq_some.1
    (hentry ▸ List.mem_singleton_self (key, entry))
  have htable : ∀ r ∈ g.table.routes, r.CallsUnsafely :=
    fun r hr => ⟨_, of_decide_eq_true hroutes r hr, by decide⟩
  have hevents : ∀ e ∈ readTwice, e.PutsOnly fun t => ∀ r ∈ t.routes, r.CallsUnsafely := by
    simp [readTwice, Event.PutsOnly, or_imp, forall_and]
  obtain ⟨hholds, hrecalls, _⟩ := caches_reads_iff_called_safely hg readTwice
  refine ⟨hvalid, g, r, hg, hr, hserved, hcached, fun hreads => ?_, key, entry, hentry, ?_⟩
  · obtain ⟨found, hfound, _, _, hiff⟩ := hrecalls 1 r hr hserved hcached
    obtain ⟨found', hfound', hread⟩ := hreads 1 r hr hserved hcached
    obtain rfl := Option.some.inj (hfound.symm.trans hfound')
    obtain ⟨table, hcalls, hresolve⟩ := exists_table_of_resolved htable hevents hr hfound
    exact hiff.1 hread (hcalls _ (RouteTable.mem_of_resolve hresolve))
  · obtain ⟨id, x, found, method, answer, hcall, hresponse, hfound, _, _, _, hiff⟩ :=
      hholds key entry hentry
    obtain ⟨table, hcalls, hmem⟩ := exists_table_of_answersCall htable hevents hcall hfound
    refine ⟨id, x, method, answer, hcall, hresponse, Bool.eq_false_iff.2 fun hread => ?_⟩
    exact hiff.1 hread (hcalls _ hmem)

end Posted

end Traffic
end ApiGateway
