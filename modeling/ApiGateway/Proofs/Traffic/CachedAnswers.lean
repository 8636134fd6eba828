import ApiGateway.Proofs.Traffic.Advice
import ApiGateway.Proofs.Traffic.CacheUse

/-!
# Answers from the cache in traffic

A request that is answered from the cache is told what a backend has answered another request of the
same key, which had stored it in the region of the policy that serves it; the time of the answer is
not over, and since it was stored the region was not cleared and nothing else was stored under the
key (`Recall`). Nothing that was added for the other caller comes with it, because answers are
stored before anything is added to them; what is added is the identifier of the request that is
answered, and what the limiter told this one (`Tells`).

The proof follows each run from the call of its backend to the stage that stores the answer
(`Answering`), and joins it with what traffic does to the cache.

Main statement: `recalls_stored_answer`.
-/

namespace ApiGateway

/-- A key is that of an exchange under a policy, which is the one of its route. -/
structure Exchange.HasKey (x : Exchange) (p : Cache.Policy) (key : String) : Prop where
  policy : ∃ found, x.resolved = some found ∧ found.route.cache = some p
  cacheable : Cache.isCacheable x.request.method = true
  key : Stage.cacheKeyOf x p = .ok key

namespace Stage

/-- The key depends on the request, its route and its caller. -/
theorem cacheKeyOf_congr
    {x y : Exchange}
    (h : y.inquiry = x.inquiry)
    (p : Cache.Policy) :
    cacheKeyOf y p = cacheKeyOf x p := by
  obtain ⟨hrequest, hresolved, hclaims⟩ := Exchange.inquiry_eq_iff.1 h
  unfold cacheKeyOf Exchange.target Exchange.route Exchange.callerClaims
  rw [hrequest, hresolved, hclaims]

/-- A look-up after which the run goes on finds a key at most. -/
theorem lookUp_goesOn
    {s : Surroundings}
    {g : Gateway}
    {x : Exchange}
    (h : (lookUp s g x).GoesOn) :
    (lookUp s g x).exchange = x ∨
    ∃ p key, x.HasKey p key ∧ (lookUp s g x).exchange = { x with cacheKey := some key } := by
  rcases lookUp_cases s g x with
    ⟨_, hl⟩ | ⟨r, _, _, hl⟩ | ⟨r, p, e, _, _, _, _, hl⟩ | ⟨r, p, key, hit, _, _, _, _, _, hl⟩ |
      ⟨r, p, key, hx, hp, hcacheable, hkey, _, hl⟩ <;>
    rw [hl] at h ⊢
  · exact absurd h Passage.not_goesOn_refuse
  · exact .inl rfl
  · exact absurd h Passage.not_goesOn_refuse
  · rcases h with h | ⟨c, h⟩ <;> cases h
  · exact .inr ⟨p, key, ⟨⟨r, hx, hp⟩, hcacheable, hkey⟩, rfl⟩

/-- A look-up that answers the request has found an entry under its key. -/
theorem lookUp_respond
    {s : Surroundings}
    {g : Gateway}
    {x : Exchange}
    (h : (lookUp s g x).verdict = .respond) :
    ∃ p key hit,
      x.HasKey p key ∧
      g.cache.get? key p.region s.now = some hit ∧
      (lookUp s g x).exchange = { x with response := some hit, servedFromCache := true } := by
  rcases lookUp_cases s g x with
    ⟨_, hl⟩ | ⟨r, _, _, hl⟩ | ⟨r, p, e, _, _, _, _, hl⟩ |
      ⟨r, p, key, hit, hx, hp, hcacheable, hkey, hhit, hl⟩ | ⟨r, p, key, _, _, _, _, _, hl⟩ <;>
    rw [hl] at h ⊢
  · cases h
  · cases h
  · cases h
  · exact ⟨p, key, hit, ⟨⟨r, hx, hp⟩, hcacheable, hkey⟩, hhit, rfl⟩
  · cases h

/-- The answer of the backend becomes the response, or the run does not go on. -/
theorem mapResponse_goesOn
    {g : Gateway}
    {x : Exchange}
    (h : (mapResponse g x).GoesOn) :
    ∃ answer,
      x.backendResponse = some answer ∧
      (mapResponse g x).exchange =
        { x with backendResponse := none, response := some answer.withoutHops } := by
  rcases mapResponse_cases g x with ⟨e, hm⟩ | ⟨answer, hx, hm⟩ <;> rw [hm] at h ⊢
  · exact absurd h Passage.not_goesOn_refuse
  · exact ⟨answer, hx, rfl⟩

end Stage

theorem Exchange.HasKey.congr
    {x y : Exchange}
    {p : Cache.Policy}
    {key : String}
    (h : x.HasKey p key)
    (hy : y.inquiry = x.inquiry) :
    y.HasKey p key := by
  have hkey := (Stage.cacheKeyOf_congr hy p).trans h.key
  obtain ⟨hrequest, hresolved, _⟩ := Exchange.inquiry_eq_iff.1 hy
  exact ⟨hresolved ▸ h.policy, hrequest ▸ h.cacheable, hkey⟩

theorem Gateway.cache_ofConfig
    {config : Config.Gateway}
    {g : Gateway}
    (hg : Gateway.ofConfig config = .ok g) :
    g.cache.entries = ∅ := by
  obtain ⟨table, _, hg⟩ := bind_eq_ok.1 hg
  cases hg
  rfl

/-- Without a refusal, the outcome is the response that was found. -/
theorem Exchange.outcome_of_response
    {x : Exchange}
    {response : Response}
    (herrors : x.errors = [])
    (hresponse : x.response = some response) :
    x.outcome = response := by
  unfold outcome isRefused
  simp [herrors, hresponse]

namespace Traffic

open Stage (standard)

/-- A backend answers at an event the call that a request waits for. -/
def Answers (id : Nat) (answer : Response) (t : Traffic) (e : Event) : Prop :=
  ∃ now x c rest,
    e = .meet id (.answer now (.ok answer)) ∧
    t.pending? id = some ⟨x, .calling c rest⟩

/-- A request is about to look into the cache for a key. -/
structure LooksUp
    (t : Traffic)
    (id : Nat)
    (x : Exchange)
    (p : Cache.Policy)
    (key : String) : Prop extends x.HasKey p key where
  pending : ∃ rest, t.pending? id = some ⟨x, .passing (.cacheLookup :: rest)⟩

/-- A request is about to store a successful answer under its key. -/
structure Stores
    (t : Traffic)
    (id : Nat)
    (x : Exchange)
    (p : Cache.Policy)
    (key : String)
    (stored : Response) : Prop extends x.HasKey p key where
  pending : ∃ rest, t.pending? id = some ⟨x, .passing (.cacheStore :: rest)⟩
  response : x.response = some stored
  success : Status.isSuccess stored.status = true

/-- A request is answered at an event with what the cache has for it. -/
def Recalls (id : Nat) (x : Exchange) (t : Traffic) (e : Event) : Prop :=
  ∃ s y p key hit,
    e = .meet id (.pass s) ∧
    t.LooksUp id y p key ∧
    t.gateway.cache.get? key p.region s.now = some hit ∧
    x = { y with response := some hit, servedFromCache := true }

/-- What is known between two stages about the key of an exchange and about its answer. -/
structure Answering
    (g : Gateway)
    (events : List Event)
    (id : Nat)
    (x : Exchange)
    (ahead : List Stage) : Prop where
  unkeyed : .cacheLookup ∈ ahead → x.cacheKey = none
  keyed : ∀ key, x.cacheKey = some key → ∃ p, x.HasKey p key
  own : x.servedFromCache = false
  backendResponse : ∀ answer, x.backendResponse = some answer →
    (Traffic.new g).Happened events (Answers id answer)
  response : ∀ response, x.response = some response →
    ∃ answer,
      response = answer.withoutHops ∧
      (Traffic.new g).Happened events (Answers id answer)

section Runs

variable {g : Gateway}
variable {events : List Event}
variable {id : Nat}
variable {x : Exchange}

theorem Answering.append
    {ahead : List Stage}
    (h : Answering g events id x ahead)
    (more : List Event) :
    Answering g (events ++ more) id x ahead where
  unkeyed := h.unkeyed
  keyed := h.keyed
  own := h.own
  backendResponse answer hx := (h.backendResponse answer hx).append more
  response response hx := by
    obtain ⟨answer, hanswer, hhappened⟩ := h.response response hx
    exact ⟨answer, hanswer, hhappened.append more⟩

variable {s : Surroundings}
variable {gw : Gateway}
variable {rest : List Stage}

theorem answering_lookUp
    (h : Answering g events id x (.cacheLookup :: rest))
    (hsuffix : .cacheLookup :: rest <:+ standard)
    (hgoes : (Stage.lookUp s gw x).GoesOn) :
    Answering g events id (Stage.lookUp s gw x).exchange rest := by
  have hdone : .cacheLookup ∉ rest := by
    rw [Stage.rest_eq_of_suffix hsuffix (List.drop_suffix 4 standard)]
    decide
  rcases Stage.lookUp_goesOn hgoes with hx | ⟨p, key, hkey, hx⟩ <;> rw [hx]
  · exact ⟨fun hmem => absurd hmem hdone, h.keyed, h.own, h.backendResponse, h.response⟩
  · refine ⟨fun hmem => absurd hmem hdone, fun key' hkey' => ?_, h.own, h.backendResponse,
      h.response⟩
    obtain rfl := Option.some.inj hkey'
    exact ⟨p, hkey.congr rfl⟩

theorem answering_mapResponse
    (h : Answering g events id x (.responseMapping :: rest))
    (hgoes : (Stage.mapResponse gw x).GoesOn) :
    Answering g events id (Stage.mapResponse gw x).exchange rest := by
  obtain ⟨answer, hanswer, hx⟩ := Stage.mapResponse_goesOn hgoes
  rw [hx]
  refine ⟨fun hmem => h.unkeyed (List.mem_cons_of_mem _ hmem), fun key hkey => ?_, h.own, nofun,
    fun response hresponse => ?_⟩
  · obtain ⟨p, hp⟩ := h.keyed key hkey
    exact ⟨p, hp.congr rfl⟩
  · exact ⟨answer, (Option.some.inj hresponse).symm, h.backendResponse answer hanswer⟩

/-- A stage that does not end the run hands on what is known about its key and its answer. -/
theorem Answering.pass
    {stage : Stage}
    {p : Passage}
    (h : Answering g events id x (stage :: rest))
    (hsuffix : stage :: rest <:+ standard)
    (hp : stage.Passes s gw x p)
    (hgoes : p.GoesOn) :
    Answering g events id p.exchange rest := by
  by_cases hlookUp : stage = .cacheLookup
  · subst hlookUp
    obtain rfl := hp.eq_pass nofun
    exact answering_lookUp h hsuffix hgoes
  by_cases hmapping : stage = .responseMapping
  · subst hmapping
    obtain rfl := hp.eq_pass nofun
    exact answering_mapResponse h hgoes
  have hframe := hp.frame
  refine ⟨fun hmem => ?_, fun key hkey => ?_, ?_, fun answer hanswer => ?_,
    fun response hresponse => ?_⟩
  · rw [hframe.cacheKey hlookUp]
    exact h.unkeyed (List.mem_cons_of_mem _ hmem)
  · rw [hframe.cacheKey hlookUp] at hkey
    -- What the key depends on was found out before there is a key.
    have hpassed : .cacheLookup ∉ rest := fun hmem => by
      rw [h.unkeyed (List.mem_cons_of_mem _ hmem)] at hkey
      cases hkey
    obtain ⟨policy, hpolicy⟩ := h.keyed key hkey
    exact ⟨policy, hpolicy.congr (hp.inquiry_of_past hsuffix (by decide) hpassed)⟩
  · exact (hframe.servedFromCache hlookUp).trans h.own
  · rw [hframe.backendResponse hmapping] at hanswer
    exact h.backendResponse answer hanswer
  · rw [hframe.response (by simp [hlookUp, hmapping])] at hresponse
    exact h.response response hresponse

/-- What is known about keys and answers tracks all runs of traffic. -/
theorem tracks_answering (g : Gateway) :
    Tracks g (Answering g) fun events id x =>
      x.servedFromCache = true → (Traffic.new g).Happened events (Recalls id x) where
  start _ _ _ _ _ _ := ⟨fun _ => rfl, nofun, rfl, nofun, nofun⟩
  keep h := h.append _
  keepEnd h hcached := (h hcached).append _
  pass _ hsuffix hp hgoes h := (h.pass hsuffix hp hgoes).append _
  answer hpending h :=
    { unkeyed := h.unkeyed
      keyed := fun key hkey => (h.keyed key hkey).imp fun p hp => hp.congr rfl
      own := h.own
      backendResponse := fun answer hanswer => by
        obtain rfl := Option.some.inj hanswer
        exact happened_last ⟨_, _, _, _, rfl, hpending⟩
      response := (h.append _).response }
  respond hpending _ _ hverdict _ _ := by
    obtain ⟨p, key, hit, hkey, hhit, hexchange⟩ := Stage.lookUp_respond hverdict
    exact happened_last ⟨_, _, p, key, hit, rfl, ⟨hkey, ⟨_, hpending⟩⟩, hhit, hexchange⟩
  finish h hcached := absurd hcached (by rw [h.own]; exact nofun)

end Runs

/--
Where an answer comes from that a request was given from the cache: it is what a backend answered to
another request under the same key. That one stored it before it added anything to it, and since
then the region was not cleared and nothing else was stored under the key.
-/
structure Recall (g : Gateway) (events : List Event) (id : Nat) where
  before : List Event
  between : List Event
  later : List Event
  /-- The request that stored the answer, with its policy, and with what it found around it. -/
  source : Nat
  stored : Exchange
  storing : Cache.Policy
  atStore : Surroundings
  /-- The request that is answered, with its policy, and with what it found around it. -/
  asked : Exchange
  serving : Cache.Policy
  atLookup : Surroundings
  key : String
  answer : Response
  split : events =
    before ++ .meet source (.pass atStore) :: (between ++ .meet id (.pass atLookup) :: later)
  other : source ≠ id
  answers : (Traffic.new g).Happened before (Answers source answer)
  stores : ((Traffic.new g).after before).Stores source stored storing key answer.withoutHops
  /-- The answer was stored, and not refused for lack of room. -/
  kept : ((Traffic.new g).after (before ++ [.meet source (.pass atStore)])).gateway.cache.entries[key]?
    = some ⟨answer.withoutHops, storing.region, atStore.now + storing.ttl⟩
  looksUp : ((Traffic.new g).after (before ++ .meet source (.pass atStore) :: between)).LooksUp
    id asked serving key
  region : storing.region = serving.region
  hit : ((Traffic.new g).after (before ++ .meet source (.pass atStore) :: between)
    ).gateway.cache.get? key serving.region atLookup.now = some answer.withoutHops
  /-- The time of the answer is not over. -/
  inTime : atLookup.now < atStore.now + storing.ttl
  undisturbed : ((Traffic.new g).after (before ++ [.meet source (.pass atStore)])).Undisturbed
    key serving.region between

section Recalling

variable {g : Gateway}
variable {events : List Event}
variable {id : Nat}

/-- Something is written into the cache by a request that was answered and is about to do so. -/
theorem exists_stores_of_writes?
    {e : Event}
    {key : String}
    {w : Cache.Write}
    (h : ((Traffic.new g).after events).writes? e = some (key, w)) :
    ∃ source s x p answer,
      e = .meet source (.pass s) ∧
      ((Traffic.new g).after events).Stores source x p key answer.withoutHops ∧
      (Traffic.new g).Happened events (Answers source answer) ∧
      w = ⟨s.now, answer.withoutHops, p.ttl, p.region⟩ := by
  obtain ⟨source, s, x, rest, rfl, hpending, hwrites⟩ := exists_of_writes?_eq_some h
  obtain ⟨found, p, response, hfound, hp, hkey, hresponse, hsuccess, rfl⟩ :=
    Exchange.writes?_eq_some_iff.1 hwrites
  obtain ⟨_, hx⟩ := ((tracks_answering g).tracked (pending?_eq_some_iff_run?.1 hpending).1).of_passing
  obtain ⟨answer, rfl, hanswers⟩ := hx.response response hresponse
  obtain ⟨p', hkeyed⟩ := hx.keyed key hkey
  obtain ⟨found', hfound', hp'⟩ := hkeyed.policy
  obtain rfl := Option.some.inj (hfound.symm.trans hfound')
  obtain rfl := Option.some.inj (hp.symm.trans hp')
  exact ⟨source, s, x, p, answer, rfl, ⟨hkeyed, ⟨rest, hpending⟩, hresponse, hsuccess⟩, hanswers,
    rfl⟩

/-- A request that stores an answer does not look into the cache any more. -/
theorem ne_of_stores_of_looksUp
    {source : Nat}
    {x y : Exchange}
    {p q : Cache.Policy}
    {key key' : String}
    {stored : Response}
    {between : List Event}
    (hstores : ((Traffic.new g).after events).Stores source x p key stored)
    (hlooksUp : ((Traffic.new g).after (events ++ between)).LooksUp id y q key') :
    source ≠ id := by
  rintro rfl
  obtain ⟨rest, hbefore⟩ := hstores.pending
  obtain ⟨rest', hafter⟩ := hlooksUp.pending
  rw [after_append] at hafter
  obtain ⟨hrun, _⟩ := pending?_eq_some_iff_run?.1 hbefore
  have hsuffix := (later_of_after hrun (pending?_eq_some_iff_run?.1 hafter).1).remaining
  obtain ⟨horder, _⟩ := ((tracks_answering g).tracked hrun).of_passing
  rw [Stage.rest_eq_of_suffix horder (List.drop_suffix 9 standard)] at hsuffix
  have hmem : Stage.cacheLookup ∈ [Stage.cacheStore, .release] := hsuffix.mem List.mem_cons_self
  exact absurd hmem (by decide)

/-- Every answer from the cache comes from another request. -/
theorem exists_recall
    {x : Exchange}
    (hempty : g.cache.entries = ∅)
    (h : (Traffic.new g).Happened events (Recalls id x)) :
    ∃ o : Recall g events id,
      x.inquiry = o.asked.inquiry ∧ x.response = some o.answer.withoutHops := by
  obtain ⟨front, e, later, rfl, s, y, p, key, hit, rfl, hlooksUp, hhit, rfl⟩ := h
  obtain ⟨entry, hentry, hregion, rfl⟩ := (Cache.Store.get?_eq_some_iff _).1 hhit
  rw [Cache.Store.getElem?_evictExpired] at hentry
  obtain ⟨hentry, hlive⟩ := Option.filter_eq_some_iff.1 hentry
  obtain ⟨before, e, between, w, rfl, hw, rfl, hkept, hundisturbed⟩ :=
    exists_write_of_getElem? (t := Traffic.new g) hempty hentry
  obtain ⟨source, s', x, p', answer, rfl, hstores, hanswers, rfl⟩ := exists_stores_of_writes? hw
  rw [Bool.not_eq_true', Cache.Write.isExpired_entry_eq_false_iff] at hlive
  exact ⟨{
    before, between, later, source, key, answer
    stored := x
    storing := p'
    atStore := s'
    asked := y
    serving := p
    atLookup := s
    split := by rw [List.append_assoc, List.cons_append]
    other := ne_of_stores_of_looksUp hstores hlooksUp
    answers := hanswers
    stores := hstores
    kept := hkept
    looksUp := hlooksUp
    region := hregion
    hit := hhit
    inTime := hlive
    undisturbed := hregion ▸ hundisturbed }, rfl, rfl⟩

/-- Whoever is answered from the cache gets the answer that was stored, and what is added to it. -/
theorem exists_recall_of_isServed
    {config : Config.Gateway}
    (hg : Gateway.ofConfig config = .ok g)
    {r : Run}
    (hr : ((Traffic.new g).after events).run? id = some r)
    (hserved : r.isServed = true)
    (hcached : r.exchange.servedFromCache = true) :
    ∃ o : Recall g events id,
      r.exchange.inquiry = o.asked.inquiry ∧
      r.response? = some (r.exchange.decorate o.answer.withoutHops) := by
  obtain ⟨x, rfl, herrors, hend⟩ := ((tracks_answering g).tracked hr).of_isServed hserved
  obtain ⟨o, hinquiry, hresponse⟩ := exists_recall (Gateway.cache_ofConfig hg) (hend hcached)
  exact ⟨o, hinquiry, by rw [← Exchange.outcome_of_response herrors hresponse]; rfl⟩

end Recalling

/--
In any traffic, a request that is answered from the cache gets what a backend answered to another
one under the same key, as it was stored and not disturbed since: without the fields of one
connection, and with nothing added but its own identifier and what the limiter told it.
-/
theorem recalls_stored_answer
    {config : Config.Gateway}
    {g : Gateway}
    (hg : Gateway.ofConfig config = .ok g)
    {events : List Event}
    {id : Nat}
    {r : Run}
    (hr : ((Traffic.new g).after events).run? id = some r)
    (hserved : r.isServed = true)
    (hcached : r.exchange.servedFromCache = true) :
    ∃ o : Recall g events id, ∃ response,
      r.exchange.inquiry = o.asked.inquiry ∧
      r.response? = some response ∧
      Status.isSuccess o.answer.status = true ∧
      o.answer.StripsTo o.answer.withoutHops ∧
      Tells g events id r.exchange o.answer.withoutHops response ∧
      (Traffic.new g).Happened events (Limits id r.exchange.advice) := by
  obtain ⟨o, hinquiry, hresponse⟩ := exists_recall_of_isServed hg hr hserved hcached
  have htells := tells_of_run? hr hresponse rfl
  refine ⟨o, _, hinquiry, hresponse, o.stores.success, o.answer.stripsTo_withoutHops, htells,
    htells.limited.resolve_left ?_⟩
  rintro ⟨hnone, _⟩
  obtain ⟨found, hfound, _⟩ := o.looksUp.policy
  have hresolved := (Exchange.inquiry_eq_iff.1 hinquiry).2.1
  exact Option.some_ne_none found (hfound.symm.trans (hresolved.symm.trans hnone))

section StoredForAnother

/-- A configuration with a cached route that limits its callers and tells them the request. -/
def cachedAndLimited : Config.Gateway where
  routes := [{
    upstreamPathTemplate := "/a"
    downstreamPathTemplate := "/a"
    downstreamHosts := [⟨"one", 80⟩]
    rateLimit := some { period := "2m", limit := 9 }
    cache := some { ttlSeconds := 60 }
    requestIdKey := some "x-request-id" }]

/--
The first request stores its answer; then the configuration is taken once more, another region is
cleared and a sweep is done, and the second request is answered in the last second of the minute.
-/
def storedForAnother : List Event :=
  let request : Request := ⟨.get, ⟨none, none, some ⟨"/a", none⟩⟩, {}, []⟩
  let answer : Response := ⟨200, ⟨[(⟨"connection"⟩, [0x61]), (⟨"etag"⟩, [0x62])]⟩, [0x63]⟩
  let second := Duration.ofSecs 1
  [.arrive request ⟨.v4 127 0 0 1, 4000⟩ "first" 0]
    ++ List.replicate 8 (.meet 0 (.pass { now := 0 }))
    ++ [.meet 0 (.answer 0 (.ok answer))]
    ++ List.replicate 4 (.meet 0 (.pass { now := second }))
    ++ [.reload cachedAndLimited, .administer "" .delete "/outputcache/b",
      .sweep second (31 * second), .arrive request ⟨.v4 127 0 0 1, 4001⟩ "second" (60 * second)]
    ++ List.replicate 5 (.meet 1 (.pass { now := 60 * second }))

/--
The second request gets the entity tag of the backend with its own identifier and what is left of
its own quota, and the connection is not told.
-/
theorem recalls_stored_answer_storedForAnother :
    ∃ g r,
      Gateway.ofConfig cachedAndLimited = .ok g ∧
      ((Traffic.new g).after storedForAnother).run? 1 = some r ∧
      r.isServed = true ∧
      r.exchange.servedFromCache = true ∧
      ∃ o : Recall g storedForAnother 1, ∃ response,
        r.response? = some response ∧
        response.body = o.answer.body ∧
        response.headers.getAll ⟨"etag"⟩ = o.answer.headers.getAll ⟨"etag"⟩ ∧
        response.headers.getAll ⟨"connection"⟩ = [] ∧
        response.headers.getAll ⟨"x-request-id"⟩ = [Bytes.ofText "second"] ∧
        response.headers.getAll RateLimit.remainingHeader = [Bytes.ofText "7"] := by
  have hrun :
      ((Gateway.ofConfig cachedAndLimited).toOption.map fun g =>
        (((Traffic.new g).after storedForAnother).run? 1).map fun r =>
          (r.isServed, r.exchange.servedFromCache,
            decide (r.exchange.Leaves ⟨"etag"⟩ ∧ r.exchange.Leaves ⟨"connection"⟩ ∧
              r.exchange.identifier? ⟨"x-request-id"⟩ = some (Bytes.ofText "second") ∧
              r.exchange.identifier? RateLimit.remainingHeader = none ∧
              r.exchange.advice.getAll RateLimit.remainingHeader = [Bytes.ofText "7"]))) =
      some (some (true, true, true)) := by
    decide +kernel
  obtain ⟨g, hg, hrun⟩ := exists_eq_ok_of_map hrun
  obtain ⟨r, hr, hrun⟩ := Option.map_eq_some_iff.1 hrun
  simp only [Prod.mk.injEq, decide_eq_true_eq] at hrun
  obtain ⟨hserved, hcached, hetag, hconnection, hid, hnone, hadvice⟩ := hrun
  obtain ⟨o, response, _, hresponse, _, hstrips, htells, _⟩ :=
    recalls_stored_answer hg hr hserved hcached
  refine ⟨g, r, hg, hr, hserved, hcached, o, response, hresponse,
    htells.body.trans hstrips.body, ?_, ?_, htells.identifier _ _ hid,
    htells.advice _ _ hnone hadvice⟩
  · rw [htells.getAll_of_leaves hetag, hstrips.headers, if_neg (by decide)]
  · rw [htells.getAll_of_leaves hconnection, hstrips.headers, if_pos (by decide)]

end StoredForAnother

end Traffic
end ApiGateway
