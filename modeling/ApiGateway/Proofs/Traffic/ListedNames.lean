import ApiGateway.Proofs.Exchange.Connections
import ApiGateway.Proofs.Traffic.Outcomes

/-!
# Names that belong to connections, in traffic

The eight names that always belong to one connection cross the gateway in neither direction: a
backend does not receive them from a caller, nor a caller from a backend, be it that the answer was
kept in the cache. Under these names there is only what the route has as a header of its own.

What a request or an answer lists beside them is not looked at, and goes on with the values that it
has. So nothing that belongs to a connection crosses just when what is listed is not there.

Main statement: `forwards_listed_names`.
-/

namespace ApiGateway
namespace Traffic

open Headers (GoesOnAs Confines ListsAbsent)

section Runs

variable {g : Gateway}
variable {events : List Event}
variable {id : Nat}

/-- A request goes to a backend with whatever it lists. -/
theorem goesOnAs_of_calling
    {x : Exchange}
    {call : BackendCall}
    {rest : List Stage}
    (hcalling : ((Traffic.new g).after events).pending? id = some ⟨x, .calling call rest⟩) :
    ∃ found,
      x.resolved = some found ∧
      GoesOnAs x.request.headers call.request.headers found.route.Sets x.Records := by
  have haddresses := (ahead_of_calling (pending?_eq_some_iff_run?.1 hcalling).1).2
  have hresolved := haddresses
  obtain ⟨found, _, _, hfound, _⟩ := hresolved
  exact ⟨found, hfound, haddresses.goesOnAs hfound⟩

/-- An answer that comes from the cache was once that of a backend to another request. -/
theorem Recall.happened (o : Recall g events id) :
    (Traffic.new g).Happened events (Answers o.source o.answer) := by
  have hanswers := o.answers.append
    (.meet o.source (.pass o.atStore) :: (o.between ++ .meet id (.pass o.atLookup) :: o.later))
  rwa [← o.split] at hanswers

/-- The answer of a backend goes with whatever it lists to all who are told it. -/
theorem goesOnAs_of_isServed
    {config : Config.Gateway}
    (hg : Gateway.ofConfig config = .ok g)
    {r : Run}
    {response : Response}
    (hr : ((Traffic.new g).after events).run? id = some r)
    (hserved : r.isServed = true)
    (hresponse : r.response? = some response) :
    ∃ source answer,
      (r.exchange.servedFromCache = false → source = id) ∧
      (Traffic.new g).Happened events (Answers source answer) ∧
      GoesOnAs answer.headers response.headers r.exchange.Echoes r.exchange.Advises := by
  cases equipped_of_run? hr with
  | passing => cases hresponse
  | calling => cases hresponse
  | refused => simp [Run.isServed, Exchange.isRefused, Exchange.refuse] at hserved
  | @served x base hx hbase =>
      cases hcached : x.servedFromCache with
      | true =>
          obtain ⟨o, _, htold⟩ := exists_recall_of_isServed hg hr hserved hcached
          obtain rfl := Option.some.inj (hresponse.symm.trans htold)
          exact ⟨o.source, o.answer, fun hown => Bool.noConfusion hown, o.happened,
            (x.decorates_decorate _).goesOnAs o.answer.stripsTo_withoutHops hx.2⟩
      | false =>
          obtain rfl := Option.some.inj hresponse
          cases origin_of_served hr hx hbase with
          | refused herrors => cases herrors.symm.trans hx.1
          | recalled _ hrecalled => cases hrecalled.symm.trans hcached
          | @answered answer _ _ _ hanswers hstrips =>
              exact ⟨id, answer, fun _ => rfl, hanswers,
                (x.decorates_decorate base).goesOnAs hstrips hx.2⟩

end Runs

/--
In any traffic, a call of a backend has none of the eight names unless its route has a header there,
and neither has a response that comes from a backend, unless it tells the request identifier there.
All other names keep their values, also those that are listed, apart from what the gateway writes.
So nothing that belongs to a connection goes on just when nothing else that is listed has a value.
-/
theorem forwards_listed_names
    {config : Config.Gateway}
    {g : Gateway}
    (hg : Gateway.ofConfig config = .ok g)
    (events : List Event) :
    (∀ id x call rest,
      ((Traffic.new g).after events).pending? id = some ⟨x, .calling call rest⟩ →
      ∃ found,
        x.resolved = some found ∧
        GoesOnAs x.request.headers call.request.headers found.route.Sets x.Records ∧
        (Confines x.request.headers call.request.headers found.route.Sets x.Records ↔
          ListsAbsent x.request.headers found.route.Sets x.Records)) ∧
    (∀ id r response,
      ((Traffic.new g).after events).run? id = some r →
      r.isServed = true →
      r.response? = some response →
      ∃ source answer,
        (r.exchange.servedFromCache = false → source = id) ∧
        (Traffic.new g).Happened events (Answers source answer) ∧
        GoesOnAs answer.headers response.headers r.exchange.Echoes r.exchange.Advises ∧
        (Confines answer.headers response.headers r.exchange.Echoes r.exchange.Advises ↔
          ListsAbsent answer.headers r.exchange.Echoes r.exchange.Advises)) := by
  refine ⟨fun id x call rest hcalling => ?_, fun id r response hr hserved hresponse => ?_⟩
  · obtain ⟨found, hfound, hgoes⟩ := goesOnAs_of_calling hcalling
    exact ⟨found, hfound, hgoes, hgoes.confines_iff⟩
  · obtain ⟨source, answer, hown, hanswers, hgoes⟩ := goesOnAs_of_isServed hg hr hserved hresponse
    exact ⟨source, answer, hown, hanswers, hgoes, hgoes.confines_iff⟩

section Sessions

/-- A configuration with one route that has no headers of its own. -/
def withoutHeaders : Config.Gateway where
  routes := [{
    upstreamPathTemplate := "/a"
    downstreamPathTemplate := "/x"
    downstreamHosts := [⟨"h", 1⟩] }]

/-- A request whose caller has a session for the connection, and lists it. -/
def listingSession : Request where
  method := .get
  uri := ⟨none, none, some ⟨"/a", none⟩⟩
  headers := ⟨[(.connection, Bytes.ofText "close, X-Session"),
    (⟨"x-session"⟩, Bytes.ofText "s1")]⟩
  body := []

/-- An answer that lists, in the second of two values, what the backend tells of itself. -/
def listingNode : Response where
  status := 200
  headers := ⟨[(.connection, Bytes.ofText "close"), (.connection, Bytes.ofText "TE ,\tX-NODE"),
    (⟨"x-node"⟩, Bytes.ofText "n1")]⟩
  body := []

/-- The request is forwarded. -/
def forwardedWithSession : List Event :=
  .arrive listingSession ⟨.v4 127 0 0 1, 4000⟩ "0a" 1
    :: List.replicate 8 (.meet 0 (.pass { now := 1 }))

/-- The backend answers. -/
def answeredByNode : List Event :=
  .meet 0 (.answer 2 (.ok listingNode)) :: List.replicate 4 (.meet 0 (.pass { now := 2 }))

/-- Nothing else is answered here. -/
theorem eq_listingNode_of_happened
    {g : Gateway}
    {id : Nat}
    {answer : Response}
    (h : (Traffic.new g).Happened (forwardedWithSession ++ answeredByNode) (Answers id answer)) :
    answer = listingNode := by
  obtain ⟨before, _, later, hsplit, now, _, _, _, rfl, _⟩ := h
  have hmem : .meet id (.answer now (.ok answer)) ∈ forwardedWithSession ++ answeredByNode :=
    hsplit ▸ List.mem_append_right before List.mem_cons_self
  have hsame : id = 0 ∧ now = 2 ∧ answer = listingNode := by
    simpa [forwardedWithSession, answeredByNode] using hmem
  exact hsame.2.2

/-- The lists stay here, and what is listed goes on in both directions. -/
theorem forwards_listed_names_sessions :
    ∃ g x call rest found r response,
      Gateway.ofConfig withoutHeaders = .ok g ∧
      ((Traffic.new g).after forwardedWithSession).pending? 0 = some ⟨x, .calling call rest⟩ ∧
      x.request.headers = listingSession.headers ∧
      x.resolved = some found ∧
      call.request.headers.contains .connection = false ∧
      call.request.headers.getAll ⟨"x-session"⟩ = [Bytes.ofText "s1"] ∧
      ¬ Confines listingSession.headers call.request.headers found.route.Sets x.Records ∧
      ((Traffic.new g).after (forwardedWithSession ++ answeredByNode)).run? 0 = some r ∧
      r.isServed = true ∧
      r.response? = some response ∧
      response.headers.contains .connection = false ∧
      response.headers.getAll ⟨"x-node"⟩ = [Bytes.ofText "n1"] ∧
      ¬ Confines listingNode.headers response.headers r.exchange.Echoes r.exchange.Advises := by
  have hrun :
      ((Gateway.ofConfig withoutHeaders).toOption.map fun g =>
        (((Traffic.new g).after forwardedWithSession).pending? 0).bind fun r =>
          r.call?.bind fun _ =>
            r.exchange.resolved.bind fun found =>
              (((Traffic.new g).after (forwardedWithSession ++ answeredByNode)).run? 0).bind
                fun r' => r'.response?.map fun _ =>
                  decide (r.exchange.request.headers = listingSession.headers ∧
                    ¬ found.route.Sets .connection ∧
                    ¬ found.route.Sets ⟨"x-session"⟩ ∧
                    ¬ r.exchange.Records ⟨"x-session"⟩ ∧
                    r'.isServed = true ∧
                    ¬ r'.exchange.Echoes .connection ∧
                    ¬ r'.exchange.Echoes ⟨"x-node"⟩ ∧
                    ¬ r'.exchange.Advises ⟨"x-node"⟩)) =
      some (some true) := by
    decide +kernel
  have hsession : listingSession.headers.getAll ⟨"x-session"⟩ = [Bytes.ofText "s1"] ∧
      ⟨"x-session"⟩ ∈ listingSession.headers.options := by
    decide +kernel
  have hnode : listingNode.headers.getAll ⟨"x-node"⟩ = [Bytes.ofText "n1"] ∧
      ⟨"x-node"⟩ ∈ listingNode.headers.options := by
    decide +kernel
  obtain ⟨g, hg, hrun⟩ := exists_eq_ok_of_map hrun
  obtain ⟨⟨x, phase⟩, hpending, hrun⟩ := Option.bind_eq_some_iff.1 hrun
  obtain ⟨call, hcall, hrun⟩ := Option.bind_eq_some_iff.1 hrun
  obtain ⟨found, hfound, hrun⟩ := Option.bind_eq_some_iff.1 hrun
  obtain ⟨r, hr, hrun⟩ := Option.bind_eq_some_iff.1 hrun
  obtain ⟨response, hresponse, hrun⟩ := Option.map_eq_some_iff.1 hrun
  obtain ⟨hheaders, hown, hsets, hrecords, hserved, hechoes, hnodeEchoes, hadvises⟩ :=
    of_decide_eq_true hrun
  cases phase with
  | passing rest => cases hcall
  | ended response => cases hcall
  | calling call' rest =>
      obtain ⟨found', hfound', hgoes, hconfines⟩ :=
        (forwards_listed_names hg forwardedWithSession).1 0 x call' rest hpending
      obtain rfl := Option.some.inj (hfound.symm.trans hfound')
      obtain ⟨source, answer, _, hanswers, hback, hbackConfines⟩ :=
        (forwards_listed_names hg (forwardedWithSession ++ answeredByNode)).2 0 r response hr
          hserved hresponse
      obtain rfl := eq_listingNode_of_happened hanswers
      dsimp only at hheaders
      rw [hheaders] at hgoes hconfines
      refine ⟨g, x, call', rest, found, r, response, hg, hpending, hheaders, hfound,
        hgoes.dropped _ (by decide) hown, ?_, fun hkept => ?_, hr, hserved, hresponse,
        hback.dropped _ (by decide) hechoes, ?_, fun hkept => ?_⟩
      · rw [hgoes.kept _ (by decide) hsets hrecords, hsession.1]
      · have habsent := hconfines.1 hkept _ hsession.2 (by decide) hsets hrecords
        rw [Headers.contains_eq_false_iff, hsession.1] at habsent
        cases habsent
      · rw [hback.kept _ (by decide) hnodeEchoes hadvises, hnode.1]
      · have habsent := hbackConfines.1 hkept _ hnode.2 (by decide) hnodeEchoes hadvises
        rw [Headers.contains_eq_false_iff, hnode.1] at habsent
        cases habsent

end Sessions

end Traffic
end ApiGateway
