import ApiGateway.Proofs.Balancer.Lending

/-!
# The least loaded backend

A load balancer that chooses by load knows how many leases of each endpoint are out. It forgets an
endpoint only while none of them is, so it does not lose count of a backend that vanishes from the
lists and comes back; and since a lease reaches it only once on its way back, a count never has to
stop at zero.

Main statement: `lends_least_loaded`.
-/

namespace ApiGateway

namespace Balancer
namespace Rule

/-- The first of the backends in a list whose endpoints bear the least load. -/
def FirstLeast (load : String → Nat) (services : List Service) (s : Service) : Prop :=
  ∃ front rest,
    services = front ++ s :: rest ∧
    (∀ t, t ∈ front → load s.endpoint < load t.endpoint) ∧
    ∀ t, t ∈ rest → load s.endpoint ≤ load t.endpoint

def Remembers (r : Rule) (endpoint : String) : Prop :=
  ∃ m, r = .byLoad m ∧ endpoint ∈ m

namespace FirstLeast

variable {load : String → Nat}
variable {services : List Service}
variable {s t u : Service}

theorem mem (h : FirstLeast load services s) : s ∈ services := by
  obtain ⟨front, rest, rfl, _, _⟩ := h
  exact List.mem_append_right front List.mem_cons_self

/-- No backend of the list bears less. -/
theorem load_le
    (h : FirstLeast load services s)
    (ht : t ∈ services) :
    load s.endpoint ≤ load t.endpoint := by
  obtain ⟨front, rest, rfl, hfront, hrest⟩ := h
  rcases List.mem_append.1 ht with ht | ht
  · exact Nat.le_of_lt (hfront t ht)
  · rcases List.mem_cons.1 ht with rfl | ht
    · exact Nat.le_refl _
    · exact hrest t ht

/-- A backend in front that bears more than the next one is passed over. -/
theorem cons_of_lt
    (h : FirstLeast load (t :: services) s)
    (hlt : load t.endpoint < load u.endpoint) :
    FirstLeast load (u :: t :: services) s := by
  have hle := h.load_le List.mem_cons_self
  obtain ⟨front, rest, hsplit, hfront, hrest⟩ := h
  refine ⟨u :: front, rest, congrArg (u :: ·) hsplit, fun v hv => ?_, hrest⟩
  rcases List.mem_cons.1 hv with rfl | hv
  · exact Nat.lt_of_le_of_lt hle hlt
  · exact hfront v hv

/-- A backend that bears no less than the one in front of it is passed over. -/
theorem insert_of_le
    (h : FirstLeast load (u :: services) s)
    (hle : load u.endpoint ≤ load t.endpoint) :
    FirstLeast load (u :: t :: services) s := by
  obtain ⟨front, rest, hsplit, hfront, hrest⟩ := h
  cases front with
  | nil =>
      obtain ⟨rfl, rfl⟩ := List.cons.inj hsplit
      refine ⟨[], t :: services, rfl, nofun, fun v hv => ?_⟩
      rcases List.mem_cons.1 hv with rfl | hv
      · exact hle
      · exact hrest v hv
  | cons f fs =>
      obtain ⟨rfl, rfl⟩ := List.cons.inj hsplit
      have hu := hfront u List.mem_cons_self
      refine ⟨u :: t :: fs, rest, rfl, fun v hv => ?_, hrest⟩
      simp only [List.mem_cons] at hv
      rcases hv with rfl | rfl | hv
      · exact hu
      · exact Nat.lt_of_lt_of_le hu hle
      · exact hfront v (List.mem_cons_of_mem _ hv)

end FirstLeast

section Choice

/-- The search finds the first backend of least load. -/
theorem firstLeast_leastLoaded
    (m : InFlight)
    (best : Service)
    (ss : List Service) :
    FirstLeast (load m) (best :: ss) (leastLoaded m best ss) := by
  induction ss generalizing best with
  | nil => exact ⟨[], [], rfl, nofun, nofun⟩
  | cons s ss ih =>
      unfold leastLoaded
      split
      · rename_i hless
        exact (ih s).cons_of_lt hless
      · rename_i hnot
        exact (ih best).insert_of_le (Nat.le_of_not_lt hnot)

/-- Choosing by load takes the first backend of least load, and remembers what is listed or used. -/
theorem pick_byLoad
    {m : InFlight}
    {services : List Service}
    {s : Service}
    {r : Rule}
    (h : (Rule.byLoad m).pick services = .ok (s, r)) :
    FirstLeast (load m) services s ∧
    ∀ endpoint, r.Remembers endpoint →
      (∃ t, t ∈ services ∧ t.endpoint = endpoint) ∨ 0 < load m endpoint := by
  cases services with
  | nil => cases h
  | cons t ts =>
      cases h
      have hfirst := firstLeast_leastLoaded (forgetIdle m (t :: ts)) t ts
      have hload : load (forgetIdle m (t :: ts)) = load m :=
        funext (load_forgetIdle m (t :: ts))
      rw [hload] at hfirst
      refine ⟨hfirst, ?_⟩
      rintro endpoint ⟨m', hm', hmem⟩
      cases hm'
      rw [Std.ExtTreeMap.mem_insert, Std.LawfulEqCmp.compare_eq_iff_eq] at hmem
      rcases hmem with hchosen | hkept
      · exact Or.inl ⟨_, hfirst.mem, hchosen⟩
      · obtain ⟨hmem, hkeep⟩ := Std.ExtTreeMap.mem_filter.1 hkept
        simp only [Std.ExtTreeMap.getKey_eq, Bool.or_eq_true, decide_eq_true_eq,
          List.any_eq_true] at hkeep
        rcases hkeep with huse | ⟨u, hu, hlisted⟩
        · refine Or.inr ?_
          rw [load, Std.ExtTreeMap.getD_eq_getD_getElem?,
            Std.ExtTreeMap.getElem?_eq_some_getElem hmem]
          exact huse
        · exact Or.inl ⟨u, hu, hlisted⟩

end Choice

end Rule
end Balancer

namespace Lending

/-- The load balancer knows of every endpoint how many leases of it are out. -/
def Counts (s : Lending) : Prop :=
  ∀ endpoint, s.balancer.rule.inFlight? endpoint = some (s.outstanding endpoint)

namespace Counts

variable {s : Lending}

theorem new (source : ServiceSource) : (Lending.new source .leastConnection).Counts :=
  fun _ => rfl

/-- The load balancer chooses by load, and the load is what is out. -/
theorem exists_byLoad (h : s.Counts) :
    ∃ m, s.balancer.rule = .byLoad m ∧ Balancer.Rule.load m = s.outstanding := by
  cases hrule : s.balancer.rule with
  | byLoad m =>
      refine ⟨m, rfl, funext fun endpoint => ?_⟩
      have hcount := h endpoint
      rw [hrule] at hcount
      exact Option.some.inj hcount
  | inTurn cursor =>
      have hcount := h ""
      rw [hrule] at hcount
      cases hcount
  | alwaysFirst =>
      have hcount := h ""
      rw [hrule] at hcount
      cases hcount

theorem lease (h : s.Counts) (read : Reading) : (s.lease read).Counts := by
  intro endpoint
  cases s.leased read with
  | failed _ _ hlease =>
      rw [hlease]
      exact h endpoint
  | refused _ _ hlease =>
      rw [hlease]
      exact h endpoint
  | lent _ _ hpick _ hlease =>
      rw [hlease, outstanding_append]
      refine (Balancer.Rule.inFlight?_pick hpick endpoint).trans ?_
      rw [h endpoint, Option.map_some]
      split <;> rfl

theorem giveBack (h : s.Counts) (k : Nat) : (s.giveBack k).Counts := by
  intro endpoint
  rcases s.giveBack_cases k with hsame | ⟨service, hk, hgiven⟩
  · rw [hsame]
    exact h endpoint
  · rw [hgiven, outstanding_set hk]
    refine (Balancer.Rule.inFlight?_release s.balancer.rule service.endpoint endpoint).trans ?_
    rw [h endpoint, Option.map_some]
    split <;> rfl

theorem meet (h : s.Counts) (e : Event) : (s.meet e).Counts := by
  cases e with
  | lease read => exact h.lease read
  | release k =>
      rw [Lending.meet, giveBack_giveBack]
      exact h.giveBack k
  | drop k => exact h.giveBack k

theorem after (h : s.Counts) (events : List Event) : (s.after events).Counts := by
  induction events generalizing s with
  | nil => exact h
  | cons e es ih => exact ih (h.meet e)

end Counts

/-- A lease is served from a list. -/
structure Serves (s : Lending) (read : Reading) (services : List Service) (service : Service) :
    Prop where
  answer : s.answer read = .ok service
  first : Balancer.Rule.FirstLeast s.outstanding services service
  loans : (s.lease read).loans = s.loans ++ [⟨service, false⟩]
  /-- What is neither listed nor in use is forgotten. -/
  remembered : ∀ endpoint, (s.lease read).balancer.rule.Remembers endpoint →
    (∃ t, t ∈ services ∧ t.endpoint = endpoint) ∨ 0 < (s.lease read).outstanding endpoint

/-- Where the load is what is out, a lease is served by the first backend with the fewest out. -/
theorem Counts.serves
    {s : Lending}
    (h : s.Counts)
    {read : Reading}
    {service : Service}
    (hanswer : s.answer read = .ok service) :
    ∃ services, s.found read = .ok services ∧ s.Serves read services service := by
  obtain ⟨m, hrule, hload⟩ := h.exists_byLoad
  cases s.leased read with
  | failed _ hrefused _ =>
      rw [hrefused] at hanswer
      cases hanswer
  | refused _ hrefused _ =>
      rw [hrefused] at hanswer
      cases hanswer
  | @lent services chosen rule hfound _ hpick hchosen hlease =>
      obtain rfl : chosen = service := Except.ok.inj (hchosen.symm.trans hanswer)
      rw [hrule] at hpick
      obtain ⟨hfirst, hremembered⟩ := Balancer.Rule.pick_byLoad hpick
      rw [hload] at hfirst hremembered
      refine ⟨services, hfound, hanswer, hfirst, ?_, fun endpoint hknown => ?_⟩
      · rw [hlease]
      · rw [hlease] at hknown ⊢
        rw [outstanding_append]
        rcases hremembered endpoint hknown with hlisted | hout
        · exact Or.inl hlisted
        · exact Or.inr (Nat.lt_of_lt_of_le hout (Nat.le_add_right _ _))

/--
Take any run of leases, returns and drops on a load balancer that chooses by load, whatever lists
are read for the leases. Its number for an endpoint is that of the leases which are out. A lease is
refused just where there is no list or an empty one, and changes neither the rule nor the leases
then. Any other lease is of the first backend in the list that was read whose endpoint has the
fewest leases out, and leaves no endpoint in memory that is neither in this list nor in use.
-/
theorem lends_least_loaded
    (source : ServiceSource)
    (events : List Event) :
    let s := (Lending.new source .leastConnection).after events
    (∀ endpoint, s.balancer.rule.inFlight? endpoint = some (s.outstanding endpoint)) ∧
    (∀ read, (∃ e, s.answer read = .error e) ↔
      (∃ e, s.found read = .error e) ∨ s.found read = .ok []) ∧
    (∀ read e, s.answer read = .error e →
      (s.lease read).balancer.rule = s.balancer.rule ∧ (s.lease read).loans = s.loans) ∧
    ∀ read service, s.answer read = .ok service →
      ∃ services, s.found read = .ok services ∧ s.Serves read services service := by
  intro s
  have hcounts : s.Counts := (Counts.new source).after events
  refine ⟨hcounts, s.answer_eq_error_iff, fun read e hrefused => ?_, fun read service hanswer => ?_⟩
  · rw [lease_of_answer_eq_error hrefused]
    exact ⟨rfl, rfl⟩
  · exact hcounts.serves hanswer

section Vanishing

/-- Two backends. -/
def one : Service := ⟨"1", "one", 80, .empty⟩

def two : Service := ⟨"2", "two", 80, .empty⟩

/-- A source that answers with a list, whatever it answered before. -/
def listing (services : List Service) : Reading := fun source => (source, .ok services)

/--
Both backends are lent; then one of them is no longer listed, and the other is lent once more. The
leases of the latter are given back, one of them twice, and an empty list is read.
-/
def vanished : List Event :=
  [.lease (listing [one, two]), .lease (listing [one, two]), .lease (listing [two]),
    .release 1, .drop 2, .drop 1, .lease (listing [])]

/-- When it is listed again, its lease still counts, and the other backend is lent. -/
theorem lends_least_loaded_vanished :
    let s := (Lending.new (.listed []) .leastConnection).after vanished
    s.balancer.rule.inFlight? "one:80" = some 1 ∧
    s.balancer.rule.inFlight? "two:80" = some 0 ∧
    s.Serves (listing [one, two, two]) [one, two, two] two := by
  intro s
  obtain ⟨hcounts, _, _, hserves⟩ := lends_least_loaded (.listed []) vanished
  have hone : s.outstanding "one:80" = 1 := by decide +kernel
  have htwo : s.outstanding "two:80" = 0 := by decide +kernel
  have hanswer : s.answer (listing [one, two, two]) = .ok two := by decide +kernel
  refine ⟨(hcounts "one:80").trans (congrArg some hone),
    (hcounts "two:80").trans (congrArg some htwo), ?_⟩
  obtain ⟨services, hfound, h⟩ := hserves (listing [one, two, two]) two hanswer
  cases hfound
  exact h

end Vanishing

end Lending
end ApiGateway
