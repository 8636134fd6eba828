import ApiGateway.Proofs.Traffic.CachedAnswers
import ApiGateway.Proofs.Traffic.Destinations

/-!
# What callers are told

A run that has ended has refused its request once or not at all. Its response is the answer to
the refusal, or an entry of the cache that had not expired, or the answer of a backend without the
fields that belong to one connection (`Origin`); and nothing is added to it but the advice of the
rate limiter and the identifier of the request (`Tells`).

A refusal is never that a stage misses what another one should have left to it, unless somebody
outside the gateway says so.

Main statement: `accounts_for_response`.
-/

namespace ApiGateway

namespace Traffic

/-- A request finds at an event an entry of the cache that has not expired. -/
def Finds (id : Nat) (found : Cache.Entry) (t : Traffic) (e : Event) : Prop :=
  ∃ s x p key,
    e = .meet id (.pass s) ∧
    t.LooksUp id x p key ∧
    t.gateway.cache.entries[key]? = some found ∧
    found.region = p.region ∧
    s.now < found.expiresAt

/-- Where the response of a request comes from, before anything is added to it. -/
inductive Origin (g : Gateway) (events : List Event) (id : Nat) (x : Exchange) : Response → Prop
  | refused {e : GatewayError} :
      x.errors = [e] →
      e.OnlyTold (Heard g events id) →
      Origin g events id x (.ofError e)
  | recalled {found : Cache.Entry} :
      x.errors = [] →
      x.servedFromCache = true →
      (Traffic.new g).Happened events (Finds id found) →
      Origin g events id x found.response
  | answered {answer stripped : Response} :
      x.errors = [] →
      x.servedFromCache = false →
      (Traffic.new g).Happened events (Answers id answer) →
      answer.StripsTo stripped →
      Origin g events id x stripped

/-- Where the response of a request comes from that was not refused. -/
structure Sourced (g : Gateway) (events : List Event) (id : Nat) (x : Exchange) : Prop where
  recalled : x.servedFromCache = true → ∀ response, x.response = some response →
    ∃ found : Cache.Entry,
      response = found.response ∧
      (Traffic.new g).Happened events (Finds id found)
  answered : x.servedFromCache = false → ∀ response, x.response = some response →
    ∃ answer : Response,
      response = answer.withoutHops ∧
      (Traffic.new g).Happened events (Answers id answer)

section Runs

variable {g : Gateway}
variable {events : List Event}
variable {id : Nat}

theorem Sourced.append
    {x : Exchange}
    (h : Sourced g events id x)
    (more : List Event) :
    Sourced g (events ++ more) id x where
  recalled hcached response hresponse := by
    obtain ⟨found, hfound, hhappened⟩ := h.recalled hcached response hresponse
    exact ⟨found, hfound, hhappened.append more⟩
  answered hown response hresponse := by
    obtain ⟨answer, hanswer, hhappened⟩ := h.answered hown response hresponse
    exact ⟨answer, hanswer, hhappened.append more⟩

/-- A request that is about to look into the cache gets an entry that has not expired. -/
theorem sourced_of_lookUp
    {x : Exchange}
    {rest : List Stage}
    {s : Surroundings}
    (hpending : ((Traffic.new g).after events).pending? id =
      some ⟨x, .passing (.cacheLookup :: rest)⟩)
    (hverdict : (Stage.lookUp s ((Traffic.new g).after events).gateway x).verdict = .respond) :
    Sourced g (events ++ [.meet id (.pass s)]) id
      (Stage.lookUp s ((Traffic.new g).after events).gateway x).exchange := by
  obtain ⟨p, key, hit, hkey, hhit, hexchange⟩ := Stage.lookUp_respond hverdict
  rw [hexchange]
  refine ⟨fun _ response hresponse => ?_, nofun⟩
  obtain rfl := Option.some.inj hresponse
  obtain ⟨found, hlive, hregion, rfl⟩ := (Cache.Store.get?_eq_some_iff _).1 hhit
  rw [Cache.Store.getElem?_evictExpired] at hlive
  obtain ⟨hfound, hlive⟩ := Option.filter_eq_some_iff.1 hlive
  refine ⟨found, rfl, happened_last ⟨s, x, p, key, rfl, ⟨hkey, _, hpending⟩, hfound, hregion, ?_⟩⟩
  simpa [Cache.Entry.isExpired] using hlive

/-- What is known about keys and answers tracks runs up to where their responses come from. -/
theorem tracks_sourced (g : Gateway) : Tracks g (Answering g) (Sourced g) where
  start := (tracks_answering g).start
  keep := (tracks_answering g).keep
  keepEnd h := h.append _
  pass := (tracks_answering g).pass
  answer := (tracks_answering g).answer
  respond hpending _ _ hverdict _ := sourced_of_lookUp hpending hverdict
  finish h := by
    refine ⟨fun hcached => ?_, fun _ response hresponse => ?_⟩
    · rw [h.own] at hcached
      cases hcached
    · obtain ⟨answer, hanswer, hhappened⟩ := h.response response hresponse
      exact ⟨answer, hanswer, hhappened.append _⟩

/-- The response of a run that was not refused comes from the cache or from a backend. -/
theorem origin_of_served
    {x : Exchange}
    {response : Response}
    (hr : ((Traffic.new g).after events).run? id =
      some ⟨{ x with lease := none }, .ended (x.decorate response)⟩)
    (hx : x.InOrder)
    (hresponse : x.response = some response) :
    Origin g events id { x with lease := none } response := by
  have hserved : Run.isServed ⟨{ x with lease := none }, .ended (x.decorate response)⟩ = true := by
    unfold Run.isServed Exchange.isRefused
    simp [hx.1, Run.isOver, Run.response?]
  obtain ⟨y, hy, _, hsourced⟩ := ((tracks_sourced g).tracked hr).of_isServed hserved
  -- What the tracking tells of is the same exchange, with the lease that was given back.
  have hexchange := congrArg Run.exchange hy
  have hcached := congrArg Exchange.servedFromCache hexchange
  have hsame : y.response = some response :=
    (congrArg Exchange.response hexchange).symm.trans hresponse
  cases hflag : x.servedFromCache with
  | true =>
      obtain ⟨found, rfl, hfinds⟩ := hsourced.recalled (hcached.symm.trans hflag) response hsame
      exact .recalled hx.1 rfl hfinds
  | false =>
      obtain ⟨answer, rfl, hanswers⟩ := hsourced.answered (hcached.symm.trans hflag) response hsame
      exact .answered hx.1 rfl hanswers answer.stripsTo_withoutHops

end Runs

/-- The response of a run that has ended, and what it was before anything was added to it. -/
structure Accounted
    (g : Gateway)
    (events : List Event)
    (id : Nat)
    (x : Exchange)
    (response base : Response) : Prop where
  origin : Origin g events id x base
  errors : x.errors.length ≤ 1
  tells : Tells g events id x base response
  /-- Only the advice of the rate limiter and the request identifier may differ. -/
  headers : ∀ n ∉ HeaderName.advisory, ¬ x.Echoes n →
    response.headers.getAll n = base.headers.getAll n

theorem accounted_of_origin
    {g : Gateway}
    {events : List Event}
    {id : Nat}
    {x : Exchange}
    {response base : Response}
    (h : Origin g events id x base)
    (htells : Tells g events id x base response)
    (hadvice : x.advice.Within HeaderName.advisory) :
    Accounted g events id x response base where
  origin := h
  errors := by
    cases h with
    | refused herrors => rw [herrors]; exact Nat.le_refl 1
    | recalled herrors => rw [herrors]; exact Nat.zero_le 1
    | answered herrors => rw [herrors]; exact Nat.zero_le 1
  tells := htells
  headers n hn hechoes :=
    htells.others n (Exchange.identifier?_of_not_echoes hechoes) (hadvice.getAll_eq_nil hn)

/--
In any traffic, a run that has ended has refused its request once at most, and its response is what
answers this refusal, or a live entry of the cache, or the answer of a backend without the fields of
one connection. Nothing is added to it but the advice of the rate limiter and the identifier of the
request, each as the only value of its name.
-/
theorem accounts_for_response
    {g : Gateway}
    {events : List Event}
    {id : Nat}
    {r : Run}
    {response : Response}
    (hr : ((Traffic.new g).after events).run? id = some r)
    (hresponse : r.response? = some response) :
    ∃ base, Accounted g events id r.exchange response base := by
  cases equipped_of_run? hr with
  | passing => cases hresponse
  | calling => cases hresponse
  | @served x base hx hbase =>
      cases hresponse
      exact ⟨base, accounted_of_origin (origin_of_served hr hx hbase) (tells_of_run? hr rfl rfl)
        hx.2⟩
  | @refused x e hx honly =>
      cases hresponse
      have herrors : (x.refuse e).errors = [e] := by rw [Exchange.refuse, hx.1]; rfl
      exact ⟨.ofError e, accounted_of_origin (.refused herrors honly) (tells_of_run? hr rfl rfl)
        hx.2⟩

section ThreeRequests

/-- After a request that a backend answers and one that the cache does, one is for no route. -/
def threeRequests : List Event :=
  let request : Request := ⟨.get, ⟨none, none, some ⟨"/b", none⟩⟩, {}, []⟩
  storedForAnother
    ++ [.arrive request ⟨.v4 127 0 0 1, 4002⟩ "third" 0, .meet 2 (.pass { now := 0 })]

/--
Whether a request was answered from the cache, for what it was refused, and whether its response has
an identifier and what is left of a quota added to it, and nothing about the connection.
-/
def outcome? (t : Traffic) (id : Nat) (identifier left : String) :
    Option (Bool × List GatewayError × Bool) :=
  (t.run? id).bind fun r => r.response?.map fun _ =>
    (r.exchange.servedFromCache, r.exchange.errors,
      decide (r.exchange.identifier? ⟨"x-request-id"⟩ = some (Bytes.ofText identifier) ∧
        r.exchange.identifier? RateLimit.remainingHeader = none ∧
        r.exchange.advice.getAll RateLimit.remainingHeader = [Bytes.ofText left] ∧
        r.exchange.Leaves ⟨"connection"⟩))

/-- All three are answered, each of them in another way, and the first two with their own texts. -/
theorem accounts_for_response_threeRequests :
    ∃ g,
      Gateway.ofConfig cachedAndLimited = .ok g ∧
      ((Traffic.new g).after threeRequests).outcome? 0 "first" "8" = some (false, [], true) ∧
      ((Traffic.new g).after threeRequests).outcome? 1 "second" "7" = some (true, [], true) ∧
      ((Traffic.new g).after threeRequests).outcome? 2 "third" "6" =
        some (false, [.routeNotFound], false) ∧
      ∀ id identifier left cached errors added,
        ((Traffic.new g).after threeRequests).outcome? id identifier left =
          some (cached, errors, added) →
        ∃ r response base,
          ((Traffic.new g).after threeRequests).run? id = some r ∧
          r.response? = some response ∧
          Accounted g threeRequests id r.exchange response base ∧
          (added = true →
            response.headers.getAll ⟨"x-request-id"⟩ = [Bytes.ofText identifier] ∧
            response.headers.getAll RateLimit.remainingHeader = [Bytes.ofText left] ∧
            (cached = false → errors = [] → response.headers.getAll ⟨"connection"⟩ = [])) := by
  have hrun :
      ((Gateway.ofConfig cachedAndLimited).toOption.map fun g =>
        [(0, "first", "8"), (1, "second", "7"), (2, "third", "6")].map fun o =>
          ((Traffic.new g).after threeRequests).outcome? o.1 o.2.1 o.2.2) =
      some [some (false, [], true), some (true, [], true),
        some (false, [.routeNotFound], false)] := by
    decide +kernel
  obtain ⟨g, hg, hrun⟩ := exists_eq_ok_of_map hrun
  simp only [List.map_cons, List.map_nil, List.cons.injEq, and_true] at hrun
  obtain ⟨h₀, h₁, h₂⟩ := hrun
  refine ⟨g, hg, h₀, h₁, h₂, fun id identifier left cached errors added houtcome => ?_⟩
  obtain ⟨r, hr, houtcome⟩ := Option.bind_eq_some_iff.1 houtcome
  obtain ⟨response, hresponse, houtcome⟩ := Option.map_eq_some_iff.1 houtcome
  obtain ⟨base, haccounted⟩ := accounts_for_response hr hresponse
  simp only [Prod.mk.injEq] at houtcome
  obtain ⟨rfl, rfl, rfl⟩ := houtcome
  refine ⟨r, response, base, hr, hresponse, haccounted, fun hadded => ?_⟩
  obtain ⟨hid, hnone, hadvice, hleaves⟩ := of_decide_eq_true hadded
  have htells := haccounted.tells
  refine ⟨htells.identifier _ _ hid, htells.advice _ _ hnone hadvice, fun hown hserved => ?_⟩
  rw [htells.getAll_of_leaves hleaves]
  cases haccounted.origin with
  | refused herrors => cases herrors.symm.trans hserved
  | recalled _ hcached => cases hcached.symm.trans hown
  | answered _ _ _ hstrips => rw [hstrips.headers, if_pos (by decide)]

end ThreeRequests

end Traffic
end ApiGateway
