import ApiGateway.Discovery.Source
import Mathlib.Data.List.Induction

/-!
# Reads of a registered service that overlap

A read of a registered service keeps the list that it found while it asks the registry. Reads may
overlap, and their queries may succeed and fail in any order. When a query fails, its read gets the
list that was stored last before the read began, and when one succeeds, its list is stored, whatever
was stored meanwhile. So a read may be refused though there is a list by now, it may get an outdated
list, and it may put one in the place of a newer one; but this happens only to reads that were
overtaken by others (`Enquiries.Overtaken`), and never if nothing was stored since they began.

Main statement: `Enquiries.lawful_unless_overtaken`.
-/

namespace ApiGateway

open RegisteredService (PendingRead)

/-- A read of a registered service. -/
inductive Enquiry
  /-- It began when some lists were stored and asks the registry, with a query once this is sent. -/
  | asking (read : PendingRead) (seen : Nat) (query : Option Nat)
  | ended (result : Except GatewayError (List Service))

/-- A registered service with all its reads, and with what was stored so far. -/
structure Enquiries where
  service : RegisteredService
  reads : List Enquiry := []
  /-- How many queries were sent; they are numbered in this order. -/
  sent : Nat := 0
  /-- The lists that were stored, the latest one last, with the numbers of their queries. -/
  stores : List (Nat × List Service) := []

namespace Enquiries

/-- What happens to the reads of a service. -/
inductive Event
  | start (now : Instant)
  | send (id : Nat)
  | conclude (id : Nat) (now : Instant) (outcome : Consul.Outcome)

/-- What a query with an outcome has the service store. -/
def stored (service : RegisteredService) (query : Nat) (outcome : Consul.Outcome) :
    List (Nat × List Service) :=
  match Consul.services service.name outcome with
  | .ok services => [(query, services)]
  | .error _ => []

/-- The reads after an event. -/
def meet (t : Enquiries) : Event → Enquiries
  | .start now =>
      match t.service.beginRead now with
      | .ok services => { t with reads := t.reads ++ [.ended (.ok services)] }
      | .error p => { t with reads := t.reads ++ [.asking p t.stores.length none] }
  | .send id =>
      match t.reads[id]? with
      | some (.asking p seen none) =>
          { t with reads := t.reads.set id (.asking p seen (some t.sent)), sent := t.sent + 1 }
      | _ => t
  | .conclude id now outcome =>
      match t.reads[id]? with
      | some (.asking p _ (some n)) =>
          { t with
            service := (t.service.endRead p now outcome).1
            reads := t.reads.set id (.ended (t.service.endRead p now outcome).2)
            stores := t.stores ++ stored t.service n outcome }
      | _ => t

def after (t : Enquiries) (events : List Event) : Enquiries :=
  events.foldl meet t

/-- What is known of a read that asks the registry. -/
structure Informed (t : Enquiries) (p : PendingRead) (seen : Nat) (query : Option Nat) : Prop where
  bound : seen ≤ t.stores.length
  previous : p.previous.map (·.services) = (t.stores.take seen).getLast?.map (·.2)
  /-- The queries of the lists that it has seen were sent before its own one. -/
  order : ∀ n, query = some n → ∀ store ∈ t.stores.take seen, store.1 < n

/-- What holds at all times. -/
structure Sound (t : Enquiries) : Prop where
  latest : t.service.latest.map (·.services) = t.stores.getLast?.map (·.2)
  sent : ∀ store ∈ t.stores, store.1 < t.sent
  pending : ∀ p seen n, .asking p seen (some n) ∈ t.reads → n < t.sent
  informed : ∀ p seen query, .asking p seen query ∈ t.reads → t.Informed p seen query

section Steps

variable {t : Enquiries}

/-- What a read has seen stays, whatever is stored later. -/
theorem Informed.append
    {p : PendingRead}
    {seen : Nat}
    {query : Option Nat}
    (h : t.Informed p seen query)
    {t' : Enquiries}
    {more : List (Nat × List Service)}
    (hstores : t'.stores = t.stores ++ more) :
    t'.Informed p seen query := by
  have htake : t'.stores.take seen = t.stores.take seen := by
    rw [hstores, List.take_append_of_le_length h.bound]
  refine ⟨?_, htake ▸ h.previous, htake ▸ h.order⟩
  rw [hstores, List.length_append]
  exact Nat.le_trans h.bound (Nat.le_add_right _ _)

/-- A read that asks the registry keeps the latest list. -/
theorem previous_of_beginRead
    {service : RegisteredService}
    {now : Instant}
    {p : PendingRead}
    (h : service.beginRead now = .error p) :
    p.previous = service.latest := by
  unfold RegisteredService.beginRead at h
  split at h
  · cases h
  · cases h
    rfl

theorem Sound.start
    (h : t.Sound)
    (now : Instant) :
    (t.meet (.start now)).Sound := by
  unfold Enquiries.meet
  cases hbegin : t.service.beginRead now with
  | ok services =>
      simp only [hbegin]
      refine ⟨h.latest, h.sent, fun p seen n hread => ?_, fun p seen query hread => ?_⟩
      · exact h.pending p seen n (by simpa using hread)
      · exact (h.informed p seen query (by simpa using hread)).append (List.append_nil _).symm
  | error p =>
      simp only [hbegin]
      refine ⟨h.latest, h.sent, fun p' seen n hread => ?_, fun p' seen query hread => ?_⟩
      · exact h.pending p' seen n (by simpa using hread)
      · rcases List.mem_append.1 hread with hread | hread
        · exact (h.informed p' seen query hread).append (List.append_nil _).symm
        · cases List.mem_singleton.1 hread
          refine ⟨Nat.le_refl _, ?_, nofun⟩
          rw [previous_of_beginRead hbegin, h.latest, List.take_length]

theorem Sound.send
    (h : t.Sound)
    (id : Nat) :
    (t.meet (.send id)).Sound := by
  unfold Enquiries.meet
  dsimp only
  split
  · rename_i p seen hread
    have hold := h.informed p seen none (List.mem_of_getElem? hread)
    refine ⟨h.latest, fun store hstore => Nat.lt_succ_of_lt (h.sent store hstore),
      fun p' seen' n hread' => ?_, fun p' seen' query hread' => ?_⟩
    · rcases List.mem_or_eq_of_mem_set hread' with hread' | hread'
      · exact Nat.lt_succ_of_lt (h.pending p' seen' n hread')
      · cases hread'
        exact Nat.lt_succ_self _
    · rcases List.mem_or_eq_of_mem_set hread' with hread' | hread'
      · exact (h.informed p' seen' query hread').append (List.append_nil _).symm
      · cases hread'
        refine ⟨hold.bound, hold.previous, fun n hn store hstore => ?_⟩
        cases hn
        exact h.sent store (List.mem_of_mem_take hstore)
  · exact h

/-- What is stored last is the latest list of the service. -/
theorem latest_endRead
    (h : t.service.latest.map (·.services) = t.stores.getLast?.map (·.2))
    (p : PendingRead)
    (n : Nat)
    (now : Instant)
    (outcome : Consul.Outcome) :
    (t.service.endRead p now outcome).1.latest.map (·.services) =
      (t.stores ++ stored t.service n outcome).getLast?.map (·.2) := by
  unfold RegisteredService.endRead stored
  cases Consul.services t.service.name outcome with
  | ok services => simp [RegisteredService.store]
  | error e => simpa using h

theorem Sound.conclude
    (h : t.Sound)
    (id : Nat)
    (now : Instant)
    (outcome : Consul.Outcome) :
    (t.meet (.conclude id now outcome)).Sound := by
  unfold Enquiries.meet
  dsimp only
  split
  · rename_i p seen n hread
    have hstored : ∀ store ∈ stored t.service n outcome, store.1 = n := by
      unfold stored
      split
      · simp
      · exact List.forall_mem_nil _
    have hother : ∀ {p' seen' query result},
        .asking p' seen' query ∈ t.reads.set id (.ended result) →
        .asking p' seen' query ∈ t.reads := by
      intro p' seen' query result hmem
      rcases List.mem_or_eq_of_mem_set hmem with hmem | hmem
      · exact hmem
      · cases hmem
    refine ⟨latest_endRead h.latest p n now outcome, fun store hstore => ?_,
      fun p' seen' n' hread' => h.pending p' seen' n' (hother hread'),
      fun p' seen' query hread' => (h.informed p' seen' query (hother hread')).append rfl⟩
    rcases List.mem_append.1 hstore with hstore | hstore
    · exact h.sent store hstore
    · rw [hstored store hstore]
      exact h.pending p seen n (List.mem_of_getElem? hread)
  · exact h

/-- Each event keeps what holds at all times. -/
theorem Sound.meet
    (h : t.Sound)
    (e : Event) :
    (t.meet e).Sound := by
  cases e with
  | start now => exact h.start now
  | send id => exact h.send id
  | conclude id now outcome => exact h.conclude id now outcome

theorem Sound.after
    (h : t.Sound)
    (events : List Event) :
    (t.after events).Sound := by
  induction events generalizing t with
  | nil => exact h
  | cons e es ih => exact ih (h.meet e)

end Steps

/-- The reads of a service after events, where no list was stored before. -/
def Reached (t : Enquiries) : Prop :=
  ∃ service events, service.latest = none ∧ t = Enquiries.after { service } events

theorem Reached.sound
    {t : Enquiries}
    (h : t.Reached) :
    t.Sound := by
  obtain ⟨service, events, hnone, rfl⟩ := h
  refine Sound.after ⟨?_, List.forall_mem_nil _, fun _ _ _ h => absurd h List.not_mem_nil,
    fun _ _ _ h => absurd h List.not_mem_nil⟩ events
  rw [hnone]
  rfl

section Conclusions

variable {t : Enquiries}
variable {p : PendingRead}
variable {seen n : Nat}

/-- What a read gets whose query has ended. -/
theorem result_endRead
    (h : t.Informed p seen (some n))
    (now : Instant)
    (outcome : Consul.Outcome) :
    (t.service.endRead p now outcome).2 =
      match Consul.services t.service.name outcome, (t.stores.take seen).getLast? with
      | .ok services, _ => .ok services
      | .error _, some store => .ok store.2
      | .error e, none =>
          .error (.discovery s!"service={t.service.name}: {e.message}") := by
  unfold RegisteredService.endRead
  cases Consul.services t.service.name outcome with
  | ok services => rfl
  | error e =>
      have hprevious := h.previous
      dsimp only
      unfold PendingRead.afterFailure
      cases hlast : (t.stores.take seen).getLast? with
      | none =>
          rw [hlast, Option.map_none, Option.map_eq_none_iff] at hprevious
          rw [hprevious]
      | some store =>
          rw [hlast, Option.map_some] at hprevious
          obtain ⟨l, hl, hservices⟩ := Option.map_eq_some_iff.1 hprevious
          rw [hl]
          exact congrArg Except.ok hservices

/-- A read that finds a fresh list gets the one that was stored last. -/
theorem Sound.fresh
    (h : t.Sound)
    {now : Instant}
    {services : List Service}
    (hbegin : t.service.beginRead now = .ok services) :
    ∃ store, t.stores.getLast? = some store ∧ services = store.2 := by
  have hlatest := h.latest
  unfold RegisteredService.beginRead RegisteredService.fresh? at hbegin
  split at hbegin
  · rename_i hfresh
    cases hbegin
    split at hfresh
    · rename_i l hl
      split at hfresh
      · cases hfresh
        rw [hl, Option.map_some] at hlatest
        obtain ⟨store, hstore, hservices⟩ := Option.map_eq_some_iff.1 hlatest.symm
        exact ⟨store, hstore, hservices.symm⟩
      · cases hfresh
    · cases hfresh
  · cases hbegin

/--
The laws of a read whose query has ended. It is not refused once there is a list, if the query has
failed it gets the list that was stored last, and if not, its list does not take the place of one
whose query was sent later.
-/
structure Lawful (t : Enquiries) (p : PendingRead) (n : Nat) (now : Instant)
    (outcome : Consul.Outcome) : Prop where
  served : t.stores ≠ [] → ∃ services, (t.service.endRead p now outcome).2 = .ok services
  latest : ∀ e store, Consul.services t.service.name outcome = .error e →
    t.stores.getLast? = some store → (t.service.endRead p now outcome).2 = .ok store.2
  newest : ∀ services store, Consul.services t.service.name outcome = .ok services →
    t.stores.getLast? = some store → ¬ n < store.1

/--
A read was overtaken: the list that was stored last is another one than when the read began, if its
query has failed, and it is that of a later query, if not.
-/
def Overtaken (t : Enquiries) (seen n : Nat) (outcome : Consul.Outcome) : Prop :=
  ∃ store, t.stores.getLast? = some store ∧
    match Consul.services t.service.name outcome with
    | .ok _ => n < store.1
    | .error _ => (t.stores.take seen).getLast?.map (·.2) ≠ some store.2

theorem Informed.lawful_iff
    (h : t.Informed p seen (some n))
    (now : Instant)
    (outcome : Consul.Outcome) :
    t.Lawful p n now outcome ↔ ¬ t.Overtaken seen n outcome := by
  have hresult := result_endRead h now outcome
  unfold Overtaken
  cases hservices : Consul.services t.service.name outcome with
  | ok services =>
      rw [hservices] at hresult
      constructor
      · rintro hlawful ⟨store, hstore, hlt⟩
        exact hlawful.newest services store hservices hstore hlt
      · intro hnot
        refine ⟨fun _ => ⟨services, hresult⟩, fun e _ he => ?_, fun _ store _ hstore hlt =>
          hnot ⟨store, hstore, hlt⟩⟩
        rw [hservices] at he
        cases he
  | error e =>
      rw [hservices] at hresult
      constructor
      · rintro hlawful ⟨store, hstore, hne⟩
        have hgets := hresult.symm.trans (hlawful.latest e store hservices hstore)
        cases hlast : (t.stores.take seen).getLast? with
        | none =>
            rw [hlast] at hgets
            cases hgets
        | some found =>
            rw [hlast] at hgets hne
            exact hne (congrArg some (Except.ok.inj hgets))
      · intro hnot
        have hgets : ∀ store, t.stores.getLast? = some store →
            (t.service.endRead p now outcome).2 = .ok store.2 := by
          intro store hstore
          have hsame := Decidable.not_not.1 fun hne => hnot ⟨store, hstore, hne⟩
          obtain ⟨found, hfound, heq⟩ := Option.map_eq_some_iff.1 hsame
          rw [hresult, hfound, ← heq]
        refine ⟨fun hne => ?_, fun _ store _ => hgets store, fun _ _ hok => ?_⟩
        · exact ⟨_, hgets _ (List.getLast?_eq_some_getLast hne)⟩
        · rw [hservices] at hok
          cases hok

/-- A read is not overtaken while nothing is stored. -/
theorem Informed.not_overtaken
    (h : t.Informed p t.stores.length (some n))
    (outcome : Consul.Outcome) :
    ¬ t.Overtaken t.stores.length n outcome := by
  rintro ⟨store, hstore, hover⟩
  split at hover
  · have hmem : store ∈ t.stores.take t.stores.length := by
      rw [List.take_length]
      exact List.mem_of_getLast? hstore
    exact Nat.lt_asymm hover (h.order n rfl store hmem)
  · rw [List.take_length, hstore] at hover
    exact hover rfl

/--
Let no list be stored when the reads begin, and let them and their queries meet in any order. A read
that finds a fresh list gets the one that was stored last. One that asks the registry gets, when its
query succeeds, the list of its own, and when it fails, the list that was stored last before it
began, or a refusal if there was none; and it keeps the laws of reads exactly if it was not
overtaken, which is the case at least if nothing was stored since it began.
-/
theorem lawful_unless_overtaken
    (h : t.Reached)
    {id : Nat}
    (hread : t.reads[id]? = some (.asking p seen (some n))) :
    (∀ now services, t.service.beginRead now = .ok services →
      ∃ store, t.stores.getLast? = some store ∧ services = store.2) ∧
    (∀ now outcome,
      (t.service.endRead p now outcome).2 =
        (match Consul.services t.service.name outcome, (t.stores.take seen).getLast? with
        | .ok services, _ => .ok services
        | .error _, some store => .ok store.2
        | .error e, none =>
            .error (.discovery s!"service={t.service.name}: {e.message}")) ∧
      (t.Lawful p n now outcome ↔ ¬ t.Overtaken seen n outcome) ∧
      (seen = t.stores.length → t.Lawful p n now outcome)) := by
  have hinformed := h.sound.informed p seen (some n) (List.mem_of_getElem? hread)
  refine ⟨fun now services => h.sound.fresh, fun now outcome =>
    ⟨result_endRead hinformed now outcome, hinformed.lawful_iff now outcome, ?_⟩⟩
  rintro rfl
  exact (hinformed.lawful_iff now outcome).2 (hinformed.not_overtaken outcome)

end Conclusions

section Overlapping

/-- Three reads begin and send their queries, and the last one gets its answer first. -/
def overlapping : List Event :=
  [.start 0, .start 0, .start 0, .send 0, .send 1, .send 2,
    .conclude 2 1 (.ok (200, Bytes.ofText "[]"))]

/-- A registered service that was not read yet. -/
def web : RegisteredService where
  client := ⟨"http://consul:8500", none, none⟩
  name := "web"
  refresh := 10

/--
The other two reads are overtaken: the second one is refused though there is a list, and the first
one puts an older list in its place.
-/
theorem lawful_unless_overtaken_overlapping :
    ∃ t : Enquiries, t.Reached ∧ t.stores = [(2, [])] ∧
      t.reads[0]? = some (.asking ⟨none⟩ 0 (some 0)) ∧
      t.reads[1]? = some (.asking ⟨none⟩ 0 (some 1)) ∧
      ¬ t.Lawful ⟨none⟩ 1 2 (.error "connection refused") ∧
      ¬ t.Lawful ⟨none⟩ 0 2 (.ok (200, Bytes.ofText "[]")) := by
  have hreached : (Enquiries.after { service := web } overlapping).Reached :=
    ⟨web, overlapping, rfl, rfl⟩
  have hstores : (Enquiries.after { service := web } overlapping).stores = [(2, [])] := by
    decide +kernel
  have hfirst : (Enquiries.after { service := web } overlapping).reads[0]? =
      some (.asking ⟨none⟩ 0 (some 0)) := rfl
  have hsecond : (Enquiries.after { service := web } overlapping).reads[1]? =
      some (.asking ⟨none⟩ 0 (some 1)) := rfl
  have hlast := congrArg List.getLast? hstores
  refine ⟨_, hreached, hstores, hfirst, hsecond, fun hlawful => ?_, fun hlawful => ?_⟩
  · obtain ⟨_, hiff, _⟩ :=
      (lawful_unless_overtaken hreached hsecond).2 2 (.error "connection refused")
    exact hiff.1 hlawful ⟨_, hlast, nofun⟩
  · obtain ⟨_, hiff, _⟩ :=
      (lawful_unless_overtaken hreached hfirst).2 2 (.ok (200, Bytes.ofText "[]"))
    refine hiff.1 hlawful ⟨_, hlast, ?_⟩
    have hok : (Consul.services (Enquiries.after { service := web } overlapping).service.name
        (.ok (200, Bytes.ofText "[]"))).isOk = true := by
      decide +kernel
    split
    · exact Nat.zero_lt_two
    · rename_i e he
      rw [he] at hok
      cases hok

end Overlapping

end Enquiries
end ApiGateway
