import ApiGateway.Proofs.Balancer.InFlight

/-!
# What a load balancer lends

One load balancer and all leases that were ever taken from it. For each lease the source is read,
and it may answer with any list of backends or with none; meanwhile earlier leases are given back.

A holder gives its lease back by hand, and then the lease goes out of scope, or it just drops it.
The first of these reaches the load balancer; a lease that was given back is not given back again.

`leased` lists what can come of a lease, each way with its condition. So it is refused just where
there is no list or an empty one, whatever the kind of the load balancer.
-/

namespace ApiGateway

namespace Balancer
namespace Rule

/-- To choose from an empty list is refused. -/
theorem pick_nil (r : Rule) :
    ∃ complaint, r.pick [] = .error (.noServiceAvailable complaint) := by
  cases r with
  | inTurn cursor => exact ⟨_, rfl⟩
  | byLoad m => exact ⟨_, rfl⟩
  | alwaysFirst => exact ⟨_, rfl⟩

/-- From any other list there is a choice. -/
theorem exists_pick_cons
    (r : Rule)
    (t : Service)
    (ts : List Service) :
    ∃ s r', r.pick (t :: ts) = .ok (s, r') := by
  cases r with
  | inTurn cursor => exact ⟨_, _, rfl⟩
  | byLoad m => exact ⟨_, _, rfl⟩
  | alwaysFirst => exact ⟨_, _, rfl⟩

end Rule
end Balancer

/-- A backend that was taken on lease, and whether it was given back. -/
structure Loan where
  service : Service
  returned : Bool
deriving DecidableEq

/-- A load balancer and the leases that were taken from it, in their order. -/
structure Lending where
  balancer : Balancer
  loans : List Loan := []

namespace Lending

/-- How a source answers when the backends are read from it. -/
abbrev Reading := ServiceSource → ServiceSource × Except GatewayError (List Service)

/-- What happens to a load balancer and its leases, which are named by their numbers. -/
inductive Event
  | lease (read : Reading)
  | release (loan : Nat)
  | drop (loan : Nat)

/-- A load balancer of a kind that has not lent anything yet. -/
def new (source : ServiceSource) (kind : Balancer.Kind) : Lending where
  balancer := ⟨source, .ofKind kind⟩

section Actions

variable (s : Lending)

/-- What is read for a lease. -/
def found (read : Reading) : Except GatewayError (List Service) :=
  (read s.balancer.source).2

/-- What is answered to a lease. -/
def answer (read : Reading) : Except GatewayError Service :=
  (s.balancer.choose (read s.balancer.source)).2

def lease (read : Reading) : Lending :=
  match s.balancer.choose (read s.balancer.source) with
  | (b, .error _) => { s with balancer := b }
  | (b, .ok service) => ⟨b, s.loans ++ [⟨service, false⟩]⟩

/-- Gives a lease back, unless it was given back before. -/
def giveBack (k : Nat) : Lending :=
  match s.loans[k]? with
  | some l =>
      if l.returned then s
      else ⟨s.balancer.release l.service.endpoint, s.loans.set k { l with returned := true }⟩
  | none => s

/-- What an event does. A lease that is given back by hand goes out of scope after that. -/
def meet : Event → Lending
  | .lease read => s.lease read
  | .release k => (s.giveBack k).giveBack k
  | .drop k => s.giveBack k

def after (events : List Event) : Lending :=
  events.foldl meet s

/-- The lease that is taken at an event, with the list that was read for it. -/
def lent : Event → List (List Service × Service)
  | .lease read =>
      match s.found read, s.answer read with
      | .ok services, .ok service => [(services, service)]
      | _, _ => []
  | _ => []

/-- The leases that are taken in the course of events, each with the list that was read for it. -/
def leases (s : Lending) : List Event → List (List Service × Service)
  | [] => []
  | e :: es => s.lent e ++ leases (s.meet e) es

/-- The leases of an endpoint that were taken and not given back yet. -/
def outstanding (endpoint : String) : Nat :=
  s.loans.countP fun l => l.service.endpoint = endpoint ∧ l.returned = false

/-- The lending after a read that led to no lease. -/
def reread (read : Reading) : Lending :=
  { s with balancer := { s.balancer with source := (read s.balancer.source).1 } }

/-- What can come of a lease. -/
inductive Leased (read : Reading) : Prop
  | failed {e : GatewayError} :
      s.found read = .error e →
      s.answer read = .error e →
      s.lease read = s.reread read →
      Leased read
  | refused {complaint : String} :
      s.found read = .ok [] →
      s.answer read = .error (.noServiceAvailable complaint) →
      s.lease read = s.reread read →
      Leased read
  | lent {services : List Service} {service : Service} {rule : Balancer.Rule} :
      s.found read = .ok services →
      services ≠ [] →
      s.balancer.rule.pick services = .ok (service, rule) →
      s.answer read = .ok service →
      s.lease read =
        ⟨⟨(read s.balancer.source).1, rule⟩, s.loans ++ [⟨service, false⟩]⟩ →
      Leased read

theorem leased (read : Reading) : s.Leased read := by
  cases hread : read s.balancer.source with
  | mk source result =>
      cases result with
      | error e =>
          refine .failed (e := e) ?_ ?_ ?_ <;>
            simp [found, answer, lease, reread, hread, Balancer.choose]
      | ok services =>
          cases services with
          | nil =>
              obtain ⟨complaint, hpick⟩ := s.balancer.rule.pick_nil
              refine @Leased.refused s read complaint ?_ ?_ ?_ <;>
                simp [found, answer, lease, reread, hread, Balancer.choose, hpick]
          | cons t ts =>
              obtain ⟨service, rule, hpick⟩ := s.balancer.rule.exists_pick_cons t ts
              refine .lent ?_ (List.cons_ne_nil t ts) hpick ?_ ?_ <;>
                simp [found, answer, lease, hread, Balancer.choose, hpick]

theorem balancer_lease (read : Reading) :
    (s.lease read).balancer = (s.balancer.choose (read s.balancer.source)).1 := by
  unfold lease
  split <;> simp [*]

/--
A load balancer that reads the list at once, and one that has asked the registry for it, lends as it
does here for the reading in question.
-/
theorem lends_as_balancer
    (p : RegisteredService.PendingRead)
    (exchange : Consul.Exchange)
    (now : Instant) :
    s.balancer.lease exchange now =
      ((s.lease (·.read exchange now)).balancer, s.answer (·.read exchange now)) ∧
    s.balancer.endLease p exchange now =
      ((s.lease (·.endRead p exchange now)).balancer, s.answer (·.endRead p exchange now)) := by
  rw [balancer_lease, balancer_lease]
  exact ⟨rfl, rfl⟩

/-- A lease that is still out is given back, and no other. -/
theorem giveBack_cases (k : Nat) :
    s.giveBack k = s ∨
    ∃ service,
      s.loans[k]? = some ⟨service, false⟩ ∧
      s.giveBack k =
        ⟨s.balancer.release service.endpoint, s.loans.set k ⟨service, true⟩⟩ := by
  unfold giveBack
  cases hk : s.loans[k]? with
  | none => exact Or.inl rfl
  | some l =>
      obtain ⟨service, returned⟩ := l
      cases returned with
      | true => exact Or.inl rfl
      | false => exact Or.inr ⟨service, rfl, rfl⟩

/-- To give a lease back again does nothing. -/
theorem giveBack_giveBack (k : Nat) : (s.giveBack k).giveBack k = s.giveBack k := by
  rcases s.giveBack_cases k with hsame | ⟨service, hk, hgiven⟩
  · rw [hsame, hsame]
  · have hset : (s.loans.set k ⟨service, true⟩)[k]? = some ⟨service, true⟩ := by
      rw [List.getElem?_set_self (List.getElem?_eq_some_iff.1 hk).1]
    rw [hgiven, giveBack]
    simp [hset]

end Actions

section Counts

variable {s : Lending}

/-- A lease that is taken is outstanding. -/
theorem outstanding_append
    (b : Balancer)
    (service : Service)
    (endpoint : String) :
    outstanding ⟨b, s.loans ++ [⟨service, false⟩]⟩ endpoint =
      s.outstanding endpoint + if service.endpoint = endpoint then 1 else 0 := by
  simp [outstanding, List.countP_append, List.countP_singleton]

/-- A lease that is given back was outstanding, and is so no longer. -/
theorem outstanding_set
    {k : Nat}
    {service : Service}
    (hk : s.loans[k]? = some ⟨service, false⟩)
    (b : Balancer)
    (endpoint : String) :
    outstanding ⟨b, s.loans.set k ⟨service, true⟩⟩ endpoint =
      s.outstanding endpoint - if service.endpoint = endpoint then 1 else 0 := by
  obtain ⟨hlt, hget⟩ := List.getElem?_eq_some_iff.1 hk
  simp [outstanding, List.countP_set hlt, hget]

end Counts

/-- A lease is refused where there is no list or an empty one, and there only. -/
theorem answer_eq_error_iff
    (s : Lending)
    (read : Reading) :
    (∃ e, s.answer read = .error e) ↔
      (∃ e, s.found read = .error e) ∨ s.found read = .ok [] := by
  cases s.leased read with
  | failed hfound hanswer _ => simp [hfound, hanswer]
  | refused hfound hanswer _ => simp [hfound, hanswer]
  | lent hfound hne _ hanswer _ => simp [hfound, hanswer, hne]

/-- Nothing is taken where a lease is refused. -/
theorem lease_of_answer_eq_error
    {s : Lending}
    {read : Reading}
    {e : GatewayError}
    (h : s.answer read = .error e) :
    s.lease read = s.reread read := by
  cases s.leased read with
  | failed _ _ hlease => exact hlease
  | refused _ _ hlease => exact hlease
  | lent _ _ _ hanswer _ =>
      rw [hanswer] at h
      cases h

end Lending
end ApiGateway
