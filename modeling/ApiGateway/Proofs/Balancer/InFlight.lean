import ApiGateway.Proofs.Balancer.Lookup

/-!
# Calls in flight

How the number of calls in flight, where a load balancer counts them, changes with each thing that
is done to the load balancers of a gateway: it grows by one at the endpoint that is taken on lease,
becomes smaller by one at the endpoint that is given back, and stays as it is everywhere else. A
load balancer that is made counts from zero, and one that was replaced goes on counting.
-/

namespace ApiGateway
namespace Balancer
namespace Rule

theorem load_insert
    (m : InFlight)
    (endpoint other : String)
    (n : Nat) :
    load (m.insert endpoint n) other = if endpoint = other then n else load m other := by
  simp only [load, Std.ExtTreeMap.getD_insert, Std.LawfulEqCmp.compare_eq_iff_eq]

/-- To forget endpoints that are not in use changes no number. -/
theorem load_forgetIdle
    (m : InFlight)
    (services : List Service)
    (endpoint : String) :
    load (forgetIdle m services) endpoint = load m endpoint := by
  rw [load, load, forgetIdle, Std.ExtTreeMap.getD_filter', Std.ExtTreeMap.getD_eq_getD_getElem?]
  cases m[endpoint]? with
  | none => rfl
  | some n =>
      cases n with
      | zero =>
          rw [Option.filter_some]
          split <;> rfl
      | succ n =>
          have huse : (decide (0 < n + 1) || services.any (·.endpoint = endpoint)) = true := by
            simp
          rw [Option.filter_some, if_pos huse]

/-- A backend that is chosen has one call more in flight. -/
theorem inFlight?_pick
    {r r' : Rule}
    {services : List Service}
    {s : Service}
    (h : r.pick services = .ok (s, r'))
    (endpoint : String) :
    r'.inFlight? endpoint =
      (r.inFlight? endpoint).map fun n => if s.endpoint = endpoint then n + 1 else n := by
  cases r with
  | inTurn cursor =>
      cases services with
      | nil => cases h
      | cons t ts =>
          cases h
          rfl
  | alwaysFirst =>
      cases services with
      | nil => cases h
      | cons t ts =>
          cases h
          rfl
  | byLoad m =>
      cases services with
      | nil => cases h
      | cons t ts =>
          cases h
          simp only [inFlight?, Option.map_some, load_insert, load_forgetIdle]
          split
          · rename_i hs
            rw [hs]
          · rfl

/-- A backend that is given back has one call less in flight. -/
theorem inFlight?_release
    (r : Rule)
    (endpoint other : String) :
    (r.release endpoint).inFlight? other =
      (r.inFlight? other).map fun n => if endpoint = other then n - 1 else n := by
  cases r with
  | inTurn cursor => rfl
  | alwaysFirst => rfl
  | byLoad m =>
      have hload : load m endpoint = (m[endpoint]?).getD 0 :=
        Std.ExtTreeMap.getD_eq_getD_getElem?
      cases hm : m[endpoint]? with
      | none =>
          -- An endpoint that is not known has nothing in flight, before and after.
          rw [hm] at hload
          simp only [release, hm, inFlight?, Option.map_some]
          split
          · rename_i he
            rw [← he, hload]
            rfl
          · rfl
      | some n =>
          rw [hm] at hload
          simp only [release, hm, inFlight?, Option.map_some, load_insert]
          split
          · rename_i he
            rw [← he, hload]
            rfl
          · rfl

end Rule

/-- The result of a lease is the backend that the rule chose. -/
theorem choose_cases
    (b : ApiGateway.Balancer)
    (read : ServiceSource × Except GatewayError (List Service)) :
    (∃ source e, b.choose read = ({ b with source }, .error e)) ∨
    (∃ source services s rule,
      b.rule.pick services = .ok (s, rule) ∧
      b.choose read = (⟨source, rule⟩, .ok s)) := by
  obtain ⟨source, result⟩ := read
  cases result with
  | error e => exact Or.inl ⟨source, e, rfl⟩
  | ok services =>
      cases hpick : b.rule.pick services with
      | error e =>
          refine Or.inl ⟨source, e, ?_⟩
          simp only [choose, hpick]
      | ok p =>
          refine Or.inr ⟨source, services, p.1, p.2, hpick, ?_⟩
          simp only [choose, hpick]

end Balancer

/-- How often a lease counts at an endpoint of a load balancer: once at its own. -/
def Lease.countAt (l : Lease) (i : Nat) (endpoint : String) : Nat :=
  if l.balancer = i ∧ l.service.endpoint = endpoint then 1 else 0

/-- A lease counts only at the load balancer that gave it. -/
theorem Lease.countAt_of_ne
    {l : Lease}
    {i : Nat}
    (h : l.balancer ≠ i)
    (endpoint : String) :
    l.countAt i endpoint = 0 :=
  if_neg fun hat => h hat.1

namespace BalancerRegistry

variable {r r' : BalancerRegistry}

theorem inFlight?_eq_none
    {i : Nat}
    (h : r.balancers.size ≤ i)
    (endpoint : String) :
    r.inFlight? i endpoint = none := by
  unfold inFlight?
  rw [Array.getElem?_eq_none h]
  rfl

/-- The load balancers after one was looked up are those before it, and perhaps a new one. -/
theorem balancers_get
    {route : Route}
    {i : Nat}
    (h : r.get route = .ok (r', i)) :
    r'.balancers = r.balancers ∨
    ∃ source, r'.balancers = r.balancers.push ⟨source, .ofKind route.balancerKind⟩ := by
  have hentered := r.entered_get route
  rw [h] at hentered
  cases hentered with
  | found => exact Or.inl rfl
  | @detached _ source => exact Or.inr ⟨source, rfl⟩
  | @installed source => exact Or.inr ⟨source, rfl⟩

/-- A new load balancer counts from zero, and the others are as they were. -/
theorem inFlight?_get
    {route : Route}
    {i : Nat}
    (h : r.get route = .ok (r', i))
    {j n : Nat}
    {endpoint : String}
    (hn : r'.inFlight? j endpoint = some n) :
    r.inFlight? j endpoint = some n ∨ (r.balancers.size ≤ j ∧ n = 0) := by
  rcases balancers_get h with hsame | ⟨source, hpush⟩
  · refine Or.inl ?_
    unfold inFlight? at hn ⊢
    rw [← hsame]
    exact hn
  · rcases Nat.lt_trichotomy j r.balancers.size with hj | hj | hj
    · refine Or.inl ?_
      unfold inFlight? at hn ⊢
      rw [hpush, Array.getElem?_push_lt hj] at hn
      rw [Array.getElem?_eq_getElem hj]
      exact hn
    · refine Or.inr ⟨Nat.le_of_eq hj.symm, ?_⟩
      unfold inFlight? at hn
      rw [hpush, hj, Array.getElem?_push_size] at hn
      cases hkind : route.balancerKind with
      | roundRobin =>
          rw [hkind] at hn
          cases hn
      | leastConnection =>
          rw [hkind] at hn
          cases hn
          rfl
      | noLoadBalancer =>
          rw [hkind] at hn
          cases hn
    · rw [inFlight?_eq_none (by rw [hpush, Array.size_push]; exact hj)] at hn
      cases hn

theorem size_get_le
    {route : Route}
    {i : Nat}
    (h : r.get route = .ok (r', i)) :
    r.balancers.size ≤ r'.balancers.size := by
  rcases balancers_get h with hsame | ⟨source, hpush⟩
  · exact Nat.le_of_eq (congrArg Array.size hsame).symm
  · rw [hpush, Array.size_push]
    exact Nat.le_succ _

/-- Another load balancer in the place of one. -/
def replace (r : BalancerRegistry) (i : Nat) (b : ApiGateway.Balancer) : BalancerRegistry :=
  { r with balancers := r.balancers.setIfInBounds i b }

@[simp] theorem size_replace
    (r : BalancerRegistry)
    (i : Nat)
    (b : ApiGateway.Balancer) :
    (r.replace i b).balancers.size = r.balancers.size :=
  Array.size_setIfInBounds

/-- Where one load balancer takes the place of another, nothing changes at the others. -/
theorem inFlight?_replace
    {i : Nat}
    {b b' : ApiGateway.Balancer}
    (hb : r.balancers[i]? = some b)
    {f : String → Nat → Nat}
    (hf : ∀ endpoint, b'.rule.inFlight? endpoint = (b.rule.inFlight? endpoint).map (f endpoint))
    (j : Nat)
    (endpoint : String) :
    (r.replace i b').inFlight? j endpoint =
      (r.inFlight? j endpoint).map fun n => if i = j then f endpoint n else n := by
  have hi : i < r.balancers.size := (Array.getElem?_eq_some_iff.1 hb).1
  unfold inFlight? replace
  rw [Array.getElem?_setIfInBounds]
  by_cases hij : i = j
  · subst hij
    simp only [if_true, if_pos hi, hb, Option.bind_eq_bind, Option.bind_some, hf]
  · simp only [if_neg hij, Option.map_id']

theorem leaseBy_eq
    {i : Nat}
    {b : ApiGateway.Balancer}
    (hb : r.balancers[i]? = some b)
    (take : ApiGateway.Balancer → ApiGateway.Balancer × Except GatewayError Service) :
    r.leaseBy i take =
      (r.replace i (take b).1,
        (take b).2.map fun service => ⟨i, (take b).1.rule.kind, service⟩) := by
  unfold leaseBy
  rw [hb]
  rfl

/-- What a lease changes: at most one endpoint of one load balancer has one call more in flight. -/
theorem leaseBy_cases
    (r : BalancerRegistry)
    (i : Nat)
    (read : ApiGateway.Balancer → ServiceSource × Except GatewayError (List Service)) :
    (∃ r' e,
      r.leaseBy i (fun b => b.choose (read b)) = (r', .error e) ∧
      r'.balancers.size = r.balancers.size ∧
      ∀ j endpoint, r'.inFlight? j endpoint = r.inFlight? j endpoint) ∨
    (∃ r' l,
      r.leaseBy i (fun b => b.choose (read b)) = (r', .ok l) ∧
      l.balancer < r.balancers.size ∧
      r'.balancers.size = r.balancers.size ∧
      ∀ j endpoint, r'.inFlight? j endpoint =
        (r.inFlight? j endpoint).map fun n => n + l.countAt j endpoint) := by
  cases hb : r.balancers[i]? with
  | none =>
      have hnone : r.leaseBy i (fun b => b.choose (read b)) =
          (r, .error (.internal "no such load balancer")) := by
        unfold leaseBy
        rw [hb]
      exact Or.inl ⟨r, _, hnone, rfl, fun _ _ => rfl⟩
  | some b =>
      rw [leaseBy_eq hb]
      rcases b.choose_cases (read b) with ⟨source, e, hl⟩ | ⟨source, services, s, rule, hp, hl⟩ <;>
        rw [hl]
      · refine Or.inl ⟨_, e, rfl, size_replace r i _, fun j endpoint => ?_⟩
        have hkept : ∀ endpoint, ({ b with source } : ApiGateway.Balancer).rule.inFlight? endpoint =
            (b.rule.inFlight? endpoint).map (fun n => n) := fun _ => Option.map_id'.symm
        have h := inFlight?_replace (f := fun _ n => n) hb hkept j endpoint
        simp only [ite_self, Option.map_id'] at h
        exact h
      · refine Or.inr ⟨_, ⟨i, rule.kind, s⟩, rfl, (Array.getElem?_eq_some_iff.1 hb).1,
          size_replace r i _, fun j endpoint => ?_⟩
        rw [inFlight?_replace hb (Balancer.Rule.inFlight?_pick hp)]
        congr 1
        funext n
        unfold Lease.countAt
        by_cases hij : i = j
        · simp only [hij, true_and, if_true]
          split <;> rfl
        · simp only [hij, false_and, if_false]
          rfl

@[simp] theorem size_release
    (r : BalancerRegistry)
    (l : Lease) :
    (r.release l).balancers.size = r.balancers.size :=
  Array.size_modify

/-- What is given back is one call less in flight at its endpoint. -/
theorem inFlight?_release
    (r : BalancerRegistry)
    (l : Lease)
    (j : Nat)
    (endpoint : String) :
    (r.release l).inFlight? j endpoint =
      (r.inFlight? j endpoint).map fun n => n - l.countAt j endpoint := by
  unfold release inFlight? Lease.countAt
  rw [Array.getElem?_modify]
  by_cases hij : l.balancer = j
  · subst hij
    cases r.balancers[l.balancer]? with
    | none =>
        rw [if_pos rfl]
        rfl
    | some b =>
        simp only [if_true, Option.map_some, Option.bind_eq_bind, Option.bind_some, true_and]
        refine (Balancer.Rule.inFlight?_release b.rule l.service.endpoint endpoint).trans ?_
        congr 1
        funext n
        split <;> rfl
  · simp only [hij, false_and, if_false, Nat.sub_zero, Option.map_id']

end BalancerRegistry
end ApiGateway
