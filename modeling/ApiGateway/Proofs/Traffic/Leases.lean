import ApiGateway.Proofs.Route.Compilation
import ApiGateway.Proofs.Run.Course
import ApiGateway.Proofs.Traffic.Basic

/-!
# Leases in traffic

However requests, cancellations and new configurations take turns, the dealings of every request
follow the course of one lease: what it takes it gives back once, and not before its call has ended.
So the number of calls in flight that a load balancer keeps for an endpoint is the number of pending
requests that hold a lease of it from this load balancer, also after it was replaced.

The history of the traffic lists the dealings of all requests in the order in which they happened,
and the load balancers are what these dealings make of them.
-/

namespace ApiGateway

namespace Gateway

/-- A new gateway has no load balancers. -/
theorem balancers_ofConfig
    {config : Config.Gateway}
    {g : Gateway}
    (hg : ofConfig config = .ok g) :
    g.balancers.balancers = #[] := by
  obtain ⟨table, _, hg⟩ := bind_eq_ok.1 hg
  cases hg
  rfl

theorem balancers_prepare
    (g : Gateway)
    (config : Config.Gateway) :
    (g.prepare config).1.balancers = g.balancers := by
  unfold prepare
  split
  · rfl
  · dsimp only
    split <;> rfl

/-- A new configuration resets the load balancers, or leaves them alone where it is refused. -/
theorem replays_reload
    (g : Gateway)
    (config : Config.Gateway) :
    Replays g.balancers [] (g.reload config).1.balancers := by
  have hprepare := g.balancers_prepare config
  unfold reload
  cases h : g.prepare config with
  | mk g' result =>
      rw [h] at hprepare
      cases result with
      | error f => exact .of_eq hprepare
      | ok p => exact .reset (.of_eq (congrArg (BalancerRegistry.reset · _) hprepare))

theorem balancers_administer
    (g : Gateway)
    (exposition : String)
    (method : Method)
    (path : String) :
    (g.administer exposition method path).1.balancers = g.balancers := by
  unfold administer administerRegion
  split
  · rfl
  split
  · rfl
  split
  · rfl
  split
  · rfl
  split
  · split <;> rfl
  · rfl

end Gateway

namespace Traffic

/-- What a run does about backends at an event. -/
def dealingsOf (t : Traffic) (id : Nat) (r : Run) (e : Run.Event) : List Dealing :=
  match e, t.begun id with
  | .pass s, some p => r.endDealings s t.gateway p
  | e, _ => r.dealings t.gateway e

/-- What the requests do about backends at an event. -/
def dealings (t : Traffic) : Event → List (Nat × Dealing)
  | .meet id e =>
      match t.pending? id with
      | some r => (t.dealingsOf id r e).map fun d => (id, d)
      | none => []
  | .abandon id _ =>
      match t.pending? id with
      | some r => r.parting.map fun d => (id, d)
      | none => []
  | _ => []

/-- What the requests do about backends in the course of events. -/
def history (t : Traffic) : List Event → List (Nat × Dealing)
  | [] => []
  | e :: es => t.dealings e ++ history (t.meet e) es

/-- The dealings of one request. -/
def ledger (id : Nat) (h : List (Nat × Dealing)) : List Dealing :=
  h.filterMap fun d => if d.1 = id then some d.2 else none

/-- The lease that a pending request holds. -/
def held? (t : Traffic) (id : Nat) : Option Lease :=
  (t.pending? id).bind (·.exchange.lease)

/-- The call that a pending request waits for. -/
def calling? (t : Traffic) (id : Nat) : Option Request :=
  (t.pending? id).bind fun r => r.call?.map (·.request)

/-- The number of pending requests that hold a lease of an endpoint from a load balancer. -/
def holders (t : Traffic) (i : Nat) (endpoint : String) : Nat :=
  t.runs.countP fun o => o.any (·.holds i endpoint)

section Ledgers

variable {id : Nat}
variable {h : List (Nat × Dealing)}

theorem ledger_append (id : Nat) (h h' : List (Nat × Dealing)) :
    ledger id (h ++ h') = ledger id h ++ ledger id h' :=
  List.filterMap_append

theorem ledger_map_self (id : Nat) (ds : List Dealing) :
    ledger id (ds.map fun d => (id, d)) = ds := by
  simp [ledger]

theorem ledger_map_of_ne
    {other : Nat}
    (hne : other ≠ id)
    (ds : List Dealing) :
    ledger id (ds.map fun d => (other, d)) = [] := by
  simp [ledger, hne]

theorem map_snd_map (id : Nat) (ds : List Dealing) :
    (ds.map fun d => (id, d)).map (·.2) = ds := by
  rw [List.map_map]
  exact List.map_id ds

/-- What one request did is part of what all did. -/
theorem mem_of_mem_ledger
    {d : Dealing}
    (hd : d ∈ ledger id h) :
    d ∈ h.map (·.2) := by
  obtain ⟨p, hp, heq⟩ := List.mem_filterMap.1 hd
  split at heq
  · cases heq
    exact List.mem_map_of_mem hp
  · cases heq

end Ledgers

/-- Who holds a lease of a load balancer is pending. -/
theorem exists_pending?_of_holds
    {t : Traffic}
    {o : Option Run}
    {i : Nat}
    {endpoint : String}
    (hmem : o ∈ t.runs)
    (hholds : o.any (·.holds i endpoint) = true) :
    ∃ id r l, t.pending? id = some r ∧ r.exchange.lease = some l ∧ l.balancer = i := by
  cases o with
  | none => cases hholds
  | some r =>
      obtain ⟨hover, l, hlease, hl, _⟩ := Run.holds_eq_true_iff.1 hholds
      obtain ⟨id, hid, hget⟩ := List.getElem_of_mem hmem
      have hrun : t.runs[id]? = some (some r) := List.getElem?_eq_some_iff.2 ⟨hid, hget⟩
      exact ⟨id, r, l, pending?_eq_some_iff.2 ⟨hrun, hover⟩, hlease, hl⟩

/-- Nobody holds anything where no request is pending. -/
theorem holders_eq_zero_of_pending?
    {t : Traffic}
    (hnone : ∀ id, t.pending? id = none)
    (i : Nat)
    (endpoint : String) :
    t.holders i endpoint = 0 := by
  refine List.countP_eq_zero.2 fun o hmem hholds => ?_
  obtain ⟨id, r, l, hr, _⟩ := exists_pending?_of_holds hmem hholds
  rw [hnone id] at hr
  cases hr

/-- Where one run takes the place of another, the number of holders changes with the two. -/
theorem holders_set
    {t : Traffic}
    {id : Nat}
    {r : Run}
    (hrun : t.runs[id]? = some (some r))
    (g : Gateway)
    (o : Option Run)
    (begun : Nat → Option PendingLease)
    (i : Nat)
    (endpoint : String) :
    (Traffic.mk g (t.runs.set id o) begun).holders i endpoint
        + (if r.holds i endpoint then 1 else 0)
      = t.holders i endpoint + (if o.any (·.holds i endpoint) then 1 else 0) ∧
    (if r.holds i endpoint then 1 else 0) ≤ t.holders i endpoint := by
  obtain ⟨hid, hget⟩ := List.getElem?_eq_some_iff.1 hrun
  have hle : (if r.holds i endpoint then 1 else 0) ≤ t.holders i endpoint := by
    split
    · rename_i hholds
      refine List.countP_pos_iff.2 ⟨some r, ?_, hholds⟩
      exact hget ▸ List.getElem_mem hid
    · exact Nat.zero_le _
  refine ⟨?_, hle⟩
  unfold holders at hle ⊢
  rw [List.countP_set hid, hget]
  simp only [Option.any_some]
  omega

/-- What holds of traffic at any time, with the dealings that led there. -/
structure Orderly (b₀ : BalancerRegistry) (t : Traffic) (h : List (Nat × Dealing)) : Prop where
  replays : Replays b₀ (h.map (·.2)) t.gateway.balancers
  accounts : ∀ id r, t.pending? id = some r → Run.Account (ledger id h) r
  closed : ∀ id, t.pending? id = none → Course (ledger id h) none none
  fresh : ∀ id, t.runs.length ≤ id → ledger id h = []
  counts : ∀ i endpoint n, t.gateway.balancers.inFlight? i endpoint = some n →
    n = t.holders i endpoint

namespace Orderly

variable {b₀ : BalancerRegistry}
variable {t : Traffic}
variable {h : List (Nat × Dealing)}

/-- Nobody holds a lease of a load balancer that there is not. -/
theorem holders_eq_zero
    (ho : Orderly b₀ t h)
    {i : Nat}
    (hi : t.gateway.balancers.balancers.size ≤ i)
    (endpoint : String) :
    t.holders i endpoint = 0 := by
  refine List.countP_eq_zero.2 fun o hmem hholds => ?_
  obtain ⟨id, r, l, hr, hlease, hl⟩ := exists_pending?_of_holds hmem hholds
  have hcourse := (ho.accounts id r hr).course
  rw [hlease] at hcourse
  have htook : .took l ∈ h.map (·.2) := mem_of_mem_ledger hcourse.mem_of_held
  have hlt := ho.replays.size_le.2 l htook
  rw [hl] at hlt
  exact absurd hi (Nat.not_le_of_lt hlt)

/--
The number of calls in flight where one run takes the place of another: the dealings on the way
take it from the holders before to the holders after.
-/
theorem inFlight?_replace
    (ho : Orderly b₀ t h)
    {id : Nat}
    {r : Run}
    (hr : t.pending? id = some r)
    {g : Gateway}
    {o : Option Run}
    {begun : Nat → Option PendingLease}
    {ds : List Dealing}
    (hreplays : Replays t.gateway.balancers ds g.balancers)
    {i : Nat}
    {endpoint : String}
    {held : Option Lease}
    {call : Option Request}
    (hcourse : Course (ledger id h ++ ds) held call)
    (hheld : Lease.heldAt held i endpoint = if o.any (·.holds i endpoint) then 1 else 0)
    {n : Nat}
    (hn : g.balancers.inFlight? i endpoint = some n) :
    n = (Traffic.mk g (t.runs.set id o) begun).holders i endpoint := by
  obtain ⟨hset, hle⟩ := holders_set (pending?_eq_some_iff.1 hr).1 g o begun i endpoint
  have haccount := ho.accounts id r hr
  have hbefore := haccount.course.given_add_heldAt i endpoint
  rw [haccount.heldAt_eq i endpoint] at hbefore
  have hafter := hcourse.given_add_heldAt i endpoint
  rw [Dealing.given_append, Dealing.taken_append, hheld] at hafter
  have hfair : ∀ front, front <+: ds →
      Dealing.given i endpoint front ≤ t.holders i endpoint + Dealing.taken i endpoint front := by
    intro front hfront
    obtain ⟨held', call', hfront⟩ :=
      hcourse.of_beginning ((List.prefix_append_right_inj (ledger id h)).2 hfront)
    have hmid := hfront.given_add_heldAt i endpoint
    rw [Dealing.given_append, Dealing.taken_append] at hmid
    omega
  have hnew : t.gateway.balancers.balancers.size ≤ i → t.holders i endpoint = 0 :=
    fun hi => ho.holders_eq_zero hi endpoint
  have hmoved := hreplays.inFlight? (ho.counts i endpoint) hnew hfair n hn
  omega

/-- One run takes the place of another, with all that it does about backends on the way. -/
theorem replace
    (ho : Orderly b₀ t h)
    {id : Nat}
    {r : Run}
    (hr : t.pending? id = some r)
    {g : Gateway}
    {o : Option Run}
    {begun : Nat → Option PendingLease}
    {ds : List Dealing}
    (hreplays : Replays t.gateway.balancers ds g.balancers)
    (hsome : ∀ r', o = some r' → Run.Account (ledger id h ++ ds) r')
    (hnone : o = none → Course (ledger id h ++ ds) none none) :
    Orderly b₀ ⟨g, t.runs.set id o, begun⟩ (h ++ ds.map fun d => (id, d)) := by
  have hid := lt_of_pending?_eq_some hr
  have hself : ledger id (h ++ ds.map fun d => (id, d)) = ledger id h ++ ds := by
    rw [ledger_append, ledger_map_self]
  have hother : ∀ other, id ≠ other →
      ledger other (h ++ ds.map fun d => (id, d)) = ledger other h := by
    intro other hne
    rw [ledger_append, ledger_map_of_ne hne, List.append_nil]
  refine ⟨?_, ?_, ?_, ?_, ?_⟩
  · rw [List.map_append, map_snd_map]
    exact ho.replays.append hreplays
  · intro other r' hr'
    rw [pending?_set g o begun hid] at hr'
    by_cases heq : id = other
    · subst heq
      rw [if_pos rfl] at hr'
      rw [hself]
      exact hsome r' (Option.filter_eq_some_iff.1 hr').1
    · rw [if_neg heq] at hr'
      rw [hother other heq]
      exact ho.accounts other r' hr'
  · intro other hr'
    rw [pending?_set g o begun hid] at hr'
    by_cases heq : id = other
    · subst heq
      rw [if_pos rfl] at hr'
      rw [hself]
      cases o with
      | none => exact hnone rfl
      | some r' => exact (hsome r' rfl).closed (by simpa using hr')
    · rw [if_neg heq] at hr'
      rw [hother other heq]
      exact ho.closed other hr'
  · intro other hlen
    have hlen : t.runs.length ≤ other := by
      simpa using hlen
    rw [hother other (Nat.ne_of_lt (Nat.lt_of_lt_of_le hid hlen))]
    exact ho.fresh other hlen
  · intro i endpoint n hn
    cases o with
    | none => exact ho.inFlight?_replace hr hreplays (hnone rfl) rfl hn
    | some r' =>
        have haccount := hsome r' rfl
        exact ho.inFlight?_replace hr hreplays haccount.course (haccount.heldAt_eq i endpoint) hn

/-- A run goes on. -/
theorem advance
    (ho : Orderly b₀ t h)
    {id : Nat}
    {r : Run}
    (hr : t.pending? id = some r)
    {next : Gateway × Run}
    {begun : Nat → Option PendingLease}
    {ds : List Dealing}
    (hreplays : Replays t.gateway.balancers ds next.1.balancers)
    (haccount : Run.Account (ledger id h ++ ds) next.2) :
    Orderly b₀ ⟨next.1, t.runs.set id (some next.2), begun⟩ (h ++ ds.map fun d => (id, d)) := by
  refine ho.replace hr hreplays (fun r' hr' => ?_) fun hnone => ?_
  · cases hr'
    exact haccount
  · cases hnone

/-- Another request arrives. -/
theorem arrive
    (ho : Orderly b₀ t h)
    (request : Request)
    (peer : SocketAddress)
    (requestId : String)
    (now : Instant) :
    Orderly b₀ (t.meet (.arrive request peer requestId now)) h := by
  have hpending := pending?_append (t := t) (.start request peer requestId now) rfl
  refine ⟨ho.replays, ?_, ?_, ?_, ?_⟩
  · intro other r hr
    have hr := (hpending other).symm.trans hr
    by_cases heq : other = t.runs.length
    · rw [if_pos heq] at hr
      cases hr
      rw [ho.fresh other (Nat.le_of_eq heq.symm)]
      exact Run.account_start request peer requestId now
    · rw [if_neg heq] at hr
      exact ho.accounts other r hr
  · intro other hr
    have hr := (hpending other).symm.trans hr
    by_cases heq : other = t.runs.length
    · rw [if_pos heq] at hr
      cases hr
    · rw [if_neg heq] at hr
      exact ho.closed other hr
  · intro other hlen
    refine ho.fresh other (Nat.le_trans (Nat.le_add_right _ 1) ?_)
    simpa [meet] using hlen
  · intro i endpoint n hn
    rw [ho.counts i endpoint n hn]
    simp [holders, meet, List.countP_append, Run.holds, Run.start]

/-- The gateway changes, and no lease is taken or given back. -/
theorem change
    (ho : Orderly b₀ t h)
    {g : Gateway}
    {begun : Nat → Option PendingLease}
    (hg : Replays t.gateway.balancers [] g.balancers) :
    Orderly b₀ { t with gateway := g, begun } h := by
  refine ⟨?_, ho.accounts, ho.closed, ho.fresh, ?_⟩
  · simpa using ho.replays.append hg
  · intro i endpoint n hn
    have hnew : t.gateway.balancers.balancers.size ≤ i → t.holders i endpoint = 0 :=
      fun hi => ho.holders_eq_zero hi endpoint
    refine hg.inFlight? (ho.counts i endpoint) hnew (fun front hfront => ?_) n hn
    rw [List.prefix_nil.1 hfront]
    exact Nat.zero_le _

/-- A run goes on as the event says, or from where the registry was asked for it. -/
theorem turn
    (ho : Orderly b₀ t h)
    {id : Nat}
    {r : Run}
    (hr : t.pending? id = some r)
    (e : Run.Event) :
    Orderly b₀ (t.turn id r e) (h ++ (t.dealingsOf id r e).map fun d => (id, d)) := by
  have haccount := ho.accounts id r hr
  have hmeet : Orderly b₀ (t.put id (r.meet t.gateway e))
      (h ++ (r.dealings t.gateway e).map fun d => (id, d)) :=
    ho.advance hr (Run.replays_meet t.gateway r e) (Run.account_meet haccount t.gateway e)
  cases e with
  | pass s =>
      cases hbegun : t.begun id with
      | none =>
          simp only [Traffic.turn, dealingsOf, hbegun]
          exact hmeet
      | some p =>
          simp only [Traffic.turn, dealingsOf, hbegun]
          exact ho.advance hr (Run.replays_endLease s t.gateway r p)
            (Run.account_endLease haccount s t.gateway p)
  | answer now a => exact hmeet
  | expire now => exact hmeet

/-- The registry is asked for a run. -/
theorem ask
    (ho : Orderly b₀ t h)
    (id : Nat)
    (now : Instant)
    (r : Run) :
    Orderly b₀ (t.ask id now r) h := by
  unfold Traffic.ask
  split
  · rename_i g p _ hbegun
    exact ho.change (Run.replays_beginLease? hbegun)
  · exact ho

/-- An event at which nothing is done about backends. -/
theorem quiet
    {t' : Traffic}
    {ds : List (Nat × Dealing)}
    (ho : Orderly b₀ t' h)
    (hds : ds = []) :
    Orderly b₀ t' (h ++ ds) := by
  rw [hds, List.append_nil]
  exact ho

/-- Each event keeps the order, with the dealings at it added to the history. -/
theorem meet
    (ho : Orderly b₀ t h)
    (e : Event) :
    Orderly b₀ (t.meet e) (h ++ t.dealings e) := by
  cases e with
  | arrive request peer requestId now =>
      exact quiet (ho.arrive request peer requestId now) rfl
  | beginLease id now =>
      cases hr : t.pending? id with
      | none =>
          simp only [Traffic.meet, hr]
          exact quiet ho rfl
      | some r =>
          simp only [Traffic.meet, hr]
          exact quiet (ho.ask id now r) rfl
  | meet id e =>
      cases hr : t.pending? id with
      | none =>
          simp only [Traffic.meet, dealings, hr]
          exact quiet ho rfl
      | some r =>
          simp only [Traffic.meet, dealings, hr]
          exact ho.turn hr e
  | abandon id now =>
      cases hr : t.pending? id with
      | none =>
          simp only [Traffic.meet, dealings, hr]
          exact quiet ho rfl
      | some r =>
          simp only [Traffic.meet, dealings, hr]
          refine ho.replace hr (Run.replays_abandon now t.gateway r) (fun r' hr' => ?_) fun _ => ?_
          · cases hr'
          · exact (ho.accounts id r hr).parting
  | reload config => exact quiet (ho.change (t.gateway.replays_reload config)) rfl
  | prepare config =>
      exact quiet (ho.change (.of_eq (t.gateway.balancers_prepare config))) rfl
  | putTable table => exact quiet (ho.change (.done _)) rfl
  | putConfig config => exact quiet (ho.change (.done _)) rfl
  | resetBalancers directory => exact quiet (ho.change (.reset (.done _))) rfl
  | clearBreakers => exact quiet (ho.change (.done _)) rfl
  | sweep before now => exact quiet (ho.change (.done _)) rfl
  | administer exposition method path =>
      have hsame := t.gateway.balancers_administer exposition method path
      exact quiet (ho.change (.of_eq hsame)) rfl

/-- The order is kept in the course of events. -/
theorem after
    (ho : Orderly b₀ t h)
    (events : List Event) :
    Orderly b₀ (t.after events) (h ++ t.history events) := by
  induction events generalizing t h with
  | nil =>
      rw [history, List.append_nil]
      exact ho
  | cons e es ih =>
      rw [history, ← List.append_assoc]
      exact ih (ho.meet e)

/-- A gateway that has not served anything yet. -/
theorem of_empty
    {g : Gateway}
    (hg : g.balancers.balancers = #[]) :
    Orderly g.balancers (.new g) [] := by
  refine ⟨.done _, ?_, fun _ _ => .idle, fun _ _ => rfl, ?_⟩
  · intro id r hr
    have hid := lt_of_pending?_eq_some hr
    exact absurd hid (Nat.not_lt_zero id)
  · intro i endpoint n hn
    simp [BalancerRegistry.inFlight?, new, hg] at hn

end Orderly

/--
In any traffic, the load balancers are what the dealings of the requests make of them, and those of
each request follow the course of one lease. A number of calls in flight is the number of pending
requests with a lease, and zero if no request is pending.
-/
theorem leases_in_traffic
    {config : Config.Gateway}
    {g : Gateway}
    (hg : Gateway.ofConfig config = .ok g)
    (events : List Event) :
    let t := (Traffic.new g).after events
    let h := (Traffic.new g).history events
    Replays g.balancers (h.map (·.2)) t.gateway.balancers ∧
    (∀ id, Course (ledger id h) (t.held? id) (t.calling? id)) ∧
    ∀ i endpoint n, t.gateway.balancers.inFlight? i endpoint = some n →
      n = t.holders i endpoint ∧
      ((∀ id, t.pending? id = none) → n = 0) := by
  intro t h
  have ho : Orderly g.balancers t h :=
    (Orderly.of_empty (Gateway.balancers_ofConfig hg)).after events
  refine ⟨ho.replays, fun id => ?_, fun i endpoint n hn => ?_⟩
  · unfold held? calling?
    cases hr : t.pending? id with
    | none => exact ho.closed id hr
    | some r => exact (ho.accounts id r hr).course
  · have hcount := ho.counts i endpoint n hn
    refine ⟨hcount, fun hnone => ?_⟩
    rw [hcount]
    exact holders_eq_zero_of_pending? hnone i endpoint

section Reloading

/-- A configuration with one route to two backends. -/
def twoBackends : Config.Gateway where
  routes := [{
    upstreamPathTemplate := "/a"
    downstreamPathTemplate := "/a"
    downstreamHosts := [⟨"one", 80⟩, ⟨"two", 80⟩]
    loadBalancer := "LeastConnection" }]

/-- Two requests wait for their backends when the configuration is taken once more. -/
def reloadedWhileCalling : List Event :=
  let request : Request := ⟨.get, ⟨none, none, some ⟨"/a", none⟩⟩, {}, []⟩
  [.arrive request ⟨.v4 127 0 0 1, 4000⟩ "" 0, .arrive request ⟨.v4 127 0 0 1, 4001⟩ "" 0]
    ++ List.replicate 8 (.meet 0 (.pass { now := 1 }))
    ++ List.replicate 8 (.meet 1 (.pass { now := 2 }))
    ++ [.reload twoBackends]

/-- Each of the two backends is called once by a request that holds a lease of it. -/
theorem leases_in_traffic_reloadedWhileCalling :
    ∃ g,
      Gateway.ofConfig twoBackends = .ok g ∧
      ∀ endpoint, endpoint ∈ ["one:80", "two:80"] →
        let t := (Traffic.new g).after reloadedWhileCalling
        t.gateway.balancers.inFlight? 0 endpoint = some 1 ∧
        t.holders 0 endpoint = 1 := by
  have hcounts :
      ((Gateway.ofConfig twoBackends).toOption.map fun g =>
        let t := (Traffic.new g).after reloadedWhileCalling
        (t.gateway.balancers.inFlight? 0 "one:80", t.gateway.balancers.inFlight? 0 "two:80")) =
      some (some 1, some 1) := by
    decide +kernel
  cases hg : Gateway.ofConfig twoBackends with
  | error e =>
      rw [hg] at hcounts
      cases hcounts
  | ok g =>
      rw [hg] at hcounts
      obtain ⟨hone, htwo⟩ := Prod.mk.inj (Option.some.inj hcounts)
      refine ⟨g, rfl, fun endpoint hendpoint => ?_⟩
      have hn : ((Traffic.new g).after reloadedWhileCalling).gateway.balancers.inFlight? 0
          endpoint = some 1 := by
        simp only [List.mem_cons, List.not_mem_nil, or_false] at hendpoint
        rcases hendpoint with rfl | rfl
        · exact hone
        · exact htwo
      have hholders := ((leases_in_traffic hg reloadedWhileCalling).2.2 0 endpoint 1 hn).1
      exact ⟨hn, hholders.symm⟩

end Reloading

end Traffic
end ApiGateway
