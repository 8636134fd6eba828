import ApiGateway.Proofs.Run.Lookups
import ApiGateway.Proofs.Run.Setup
import ApiGateway.Proofs.Traffic.Breakers
import ApiGateway.Proofs.Traffic.Leases

/-!
# Look-ups of load balancers in traffic

At each event one request at most looks up a load balancer, for a route that it was resolved to
when the table of this route was in force. Seen in outline this is all that requests do with the
load balancers, and what the gateway is set up with they only read.
-/

namespace ApiGateway
namespace Traffic

/-- The route whose load balancer a run looks up, unless the registry was asked for its lease. -/
def seeksOf (t : Traffic) (id : Nat) (r : Run) (e : Run.Event) : Option Route :=
  match e, t.begun id with
  | .pass _, some _ => none
  | e, _ => r.seeksAt? e

/-- The route whose load balancer is looked up to ask the registry for a lease, if it is asked. -/
def seeksBeginning (t : Traffic) (id : Nat) (now : Instant) (r : Run) : Option Route :=
  match t.begun id, r.beginLease? now t.gateway with
  | none, some _ => r.seeks?
  | _, _ => none

/-- The route whose load balancer is looked up at an event. -/
def seeks? (t : Traffic) : Event → Option Route
  | .beginLease id now => (t.pending? id).bind fun r => t.seeksBeginning id now r
  | .meet id e => (t.pending? id).bind fun r => t.seeksOf id r e
  | _ => none

/-- A pending request was resolved to a route. -/
def Knows (t : Traffic) (route : Route) : Prop :=
  ∃ id r found,
    t.pending? id = some r ∧ r.exchange.resolved = some found ∧ found.route = route

variable {t : Traffic}

theorem outline_ask (id : Nat) (now : Instant) (r : Run) :
    (t.ask id now r).gateway.balancers.outline =
      t.gateway.balancers.outline.sought (t.seeksBeginning id now r) := by
  unfold ask seeksBeginning
  split
  · rename_i hbegun hbegin
    simp only [hbegun, hbegin]
    exact Run.outline_beginLease? hbegin
  · rename_i hother
    split
    · rename_i hbegun hbegin
      exact absurd hbegin (hother _ _ hbegun)
    · rfl

theorem outline_turn (id : Nat) (r : Run) (e : Run.Event) :
    (t.turn id r e).gateway.balancers.outline =
      t.gateway.balancers.outline.sought (t.seeksOf id r e) := by
  cases e with
  | pass s =>
      cases hbegun : t.begun id with
      | none =>
          simp only [turn, seeksOf, hbegun]
          exact Run.outline_meet t.gateway r (.pass s)
      | some p =>
          simp only [turn, seeksOf, hbegun]
          exact Run.outline_endLease s t.gateway r p
  | answer now a => exact Run.outline_meet t.gateway r (.answer now a)
  | expire now => exact Run.outline_meet t.gateway r (.expire now)

/-- All that requests do with the load balancers at an event is to look one up, if it is sought. -/
theorem outline_meet
    {e : Event}
    (he : e.renews = false) :
    (t.meet e).gateway.balancers.outline = t.gateway.balancers.outline.sought (t.seeks? e) := by
  cases e with
  | arrive request peer requestId now => rfl
  | beginLease id now =>
      cases hr : t.pending? id with
      | none =>
          simp only [meet, seeks?, hr]
          rfl
      | some r =>
          simp only [meet, seeks?, hr]
          exact outline_ask id now r
  | meet id e =>
      cases hr : t.pending? id with
      | none =>
          simp only [meet, seeks?, hr]
          rfl
      | some r =>
          simp only [meet, seeks?, hr]
          exact outline_turn id r e
  | abandon id now =>
      cases hr : t.pending? id with
      | none =>
          simp only [meet, hr]
          rfl
      | some r =>
          simp only [meet, hr]
          exact Run.outline_abandon now t.gateway r
  | sweep before now => rfl
  | administer exposition method path =>
      exact congrArg BalancerRegistry.outline
        (t.gateway.balancers_administer exposition method path)
  | _ => cases he

theorem setup_ask (id : Nat) (now : Instant) (r : Run) :
    (t.ask id now r).gateway.setup = t.gateway.setup := by
  unfold ask
  split
  · rename_i hbegin
    exact Run.setup_beginLease? hbegin
  · rfl

theorem setup_turn (id : Nat) (r : Run) (e : Run.Event) :
    (t.turn id r e).gateway.setup = t.gateway.setup := by
  cases e with
  | pass s =>
      cases hbegun : t.begun id with
      | none =>
          simp only [turn, hbegun]
          exact Run.setup_meet t.gateway r (.pass s)
      | some p =>
          simp only [turn, hbegun]
          exact Run.setup_endLease s t.gateway r p
  | answer now a => exact Run.setup_meet t.gateway r (.answer now a)
  | expire now => exact Run.setup_meet t.gateway r (.expire now)

/-- No event of the requests changes what the gateway is set up with. -/
theorem setup_meet
    {e : Event}
    (he : e.renews = false) :
    (t.meet e).gateway.setup = t.gateway.setup := by
  cases e with
  | arrive request peer requestId now => rfl
  | beginLease id now =>
      cases hr : t.pending? id with
      | none => simp only [meet, hr]
      | some r =>
          simp only [meet, hr]
          exact setup_ask id now r
  | meet id e =>
      cases hr : t.pending? id with
      | none => simp only [meet, hr]
      | some r =>
          simp only [meet, hr]
          exact setup_turn id r e
  | abandon id now =>
      cases hr : t.pending? id with
      | none => simp only [meet, hr]
      | some r =>
          simp only [meet, hr]
          exact Run.setup_abandon now t.gateway r
  | sweep before now => rfl
  | administer exposition method path => exact t.gateway.setup_administer exposition method path
  | _ => cases he

section Known

variable {route : Route}

/-- A load balancer is looked up for a route that a pending request was resolved to. -/
theorem knows_of_seeks?
    {e : Event}
    (h : t.seeks? e = some route) :
    t.Knows route := by
  have hseeks : ∀ id r, t.pending? id = some r → r.seeks? = some route → t.Knows route := by
    intro id r hr hseeks
    unfold Run.seeks? at hseeks
    split at hseeks
    · obtain ⟨found, hfound, hroute⟩ := Option.map_eq_some_iff.1 hseeks
      exact ⟨id, r, found, hr, hfound, hroute⟩
    · cases hseeks
  cases e with
  | beginLease id now =>
      obtain ⟨r, hr, h⟩ := Option.bind_eq_some_iff.1 h
      unfold seeksBeginning at h
      split at h
      · exact hseeks id r hr h
      · cases h
  | meet id e =>
      obtain ⟨r, hr, h⟩ := Option.bind_eq_some_iff.1 h
      cases e with
      | pass s =>
          unfold seeksOf at h
          split at h
          · cases h
          · exact hseeks id r hr h
      | _ => cases h
  | _ => cases h

/-- Nothing is looked up when a configuration is taken or a part of one. -/
theorem renews_of_seeks?
    {e : Event}
    (h : t.seeks? e = some route) :
    e.renews = false := by
  cases e with
  | beginLease id now => rfl
  | meet id e => rfl
  | _ => cases h

/-- Only the routes of the table in force become known. -/
theorem knows_of_meet
    (hv : t.Vouched)
    {e : Event}
    (h : (t.meet e).Knows route) :
    t.Knows route ∨ route ∈ t.gateway.table.routes := by
  obtain ⟨id, r', found, hr', hfound, hroute⟩ := h
  rcases (guarding_meet hv e).runs id r' hr' with hr | ⟨request, peer, requestId, now, rfl⟩ |
    ⟨r, hr, hstep⟩
  · exact .inl ⟨id, r', found, hr, hfound, hroute⟩
  · cases hfound
  · rcases hstep.resolved found hfound with hold | hnew
    · exact .inl ⟨id, r, found, hr, hold, hroute⟩
    · exact .inr (hroute ▸ hnew)

theorem not_knows_new (g : Gateway) : ¬ (Traffic.new g).Knows route := by
  rintro ⟨id, r, _, hr, _⟩
  exact absurd (lt_of_pending?_eq_some hr) (Nat.not_lt_zero id)

end Known

end Traffic
end ApiGateway
