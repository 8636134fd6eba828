import ApiGateway.Proofs.RateLimit.History
import ApiGateway.Proofs.Route.Compilation
import ApiGateway.Proofs.Text.Joined

/-!
# Whose counter is whose

A check can change the decision on another one only through a counter that both have. The name of a
counter joins the key of the route and the identifier of the caller with a colon, and both may
contain colons: the key since it ends in a path template, the identifier since the caller chooses
it. So two callers may share a counter although they are told apart by route and identifier, and
they do if and only if they are `Entangled`: what one of the keys has more than the other, one of
the identifiers has in front.

Main statement: `isolated_iff` says that two callers of routes of one table leave each other alone
in all histories just when they are not entangled.
-/

namespace ApiGateway
namespace RateLimit

/-- One route key goes on, behind a colon, with what stands in front of the other's identifier. -/
def Entangled (key₁ client₁ key₂ client₂ : String) : Prop :=
  ∃ d,
    (key₂ = key₁ ++ ":" ++ d ∧ client₁ = d ++ ":" ++ client₂) ∨
    (key₁ = key₂ ++ ":" ++ d ∧ client₂ = d ++ ":" ++ client₁)

/--
A check of one caller changes no decision on the other, whenever it comes, as long as no sweep has
to drop open windows.
-/
def Isolated (a b : Caller) : Prop :=
  ∀ (before later : List Event) (time : Instant),
    ({} : Limiter).Roomy (before ++ .check ⟨a, time⟩ :: later) →
    ({} : Limiter).Roomy (before ++ later) →
    decisionsFor b (({} : Limiter).decisions (before ++ .check ⟨a, time⟩ :: later)) =
      decisionsFor b (({} : Limiter).decisions (before ++ later))

section Names

/-- Callers under one prefix share a counter if they are the same or entangled. -/
theorem counterKey_eq_iff
    {p₁ p₂ : Policy}
    (hnamed : p₁.counterPrefix = p₂.counterPrefix)
    (key₁ client₁ key₂ client₂ : String) :
    counterKey p₁ key₁ client₁ = counterKey p₂ key₂ client₂ ↔
      (key₁ = key₂ ∧ client₁ = client₂) ∨ Entangled key₁ client₁ key₂ client₂ := by
  have hname : ∀ key client : String, counterKey p₁ key client =
      p₁.counterPrefix ++ ":" ++ (key ++ String.singleton ':' ++ client) := by
    intro key client
    simp only [counterKey, String.append_assoc]
    rfl
  have hname₂ : counterKey p₂ key₂ client₂ = counterKey p₁ key₂ client₂ := by
    rw [counterKey, counterKey, hnamed]
  rw [hname₂, hname, hname, String.append_right_inj]
  exact Text.joined_eq_iff ':' key₁ client₁ key₂ client₂

end Names

section Decisions

variable {a b : Caller}

theorem decisionsFor_append (b : Caller) (rs rs' : List (Check × Decision)) :
    decisionsFor b (rs ++ rs') = decisionsFor b rs ++ decisionsFor b rs' :=
  List.filterMap_append

theorem decisionsFor_cons_of_ne
    {c : Check}
    (h : c.toCaller ≠ b)
    (d : Decision)
    (rs : List (Check × Decision)) :
    decisionsFor b ((c, d) :: rs) = decisionsFor b rs := by
  simp only [decisionsFor, List.filterMap_cons, if_neg h]

/-- Limiters that agree on the counter of a caller decide alike on it, whatever comes. -/
theorem decisionsFor_congr
    {l l' : Limiter}
    {events : List Event}
    (hagree : l.counters[b.key]? = l'.counters[b.key]?)
    (hroom : l.Roomy events)
    (hroom' : l'.Roomy events) :
    decisionsFor b (l.decisions events) = decisionsFor b (l'.decisions events) := by
  induction events generalizing l l' with
  | nil => rfl
  | cons e es ih =>
      cases e with
      | sweep t =>
          refine ih ?_ hroom.2 hroom'.2
          rw [l.getElem?_evictStale hroom.1, l'.getElem?_evictStale hroom'.1, hagree]
      | check c =>
          by_cases hkey : c.key = b.key
          · have hanswer : l.answering c = l'.answering c := by
              unfold Limiter.answering Limiter.found
              rw [hkey, hagree]
            have hnext : (l.ask c).1.counters[b.key]? = (l'.ask c).1.counters[b.key]? := by
              rw [← hkey, l.getElem?_ask_self, l'.getElem?_ask_self, hanswer]
            have hrest := ih hnext hroom hroom'
            simp only [Limiter.decisions, decisionsFor, List.filterMap_cons] at hrest ⊢
            rw [l.ask_snd, l'.ask_snd, hanswer, hrest]
          · have hne : c.toCaller ≠ b := by
              rintro rfl
              exact hkey rfl
            have hnext : (l.ask c).1.counters[b.key]? = (l'.ask c).1.counters[b.key]? := by
              rw [l.getElem?_ask_of_ne c hkey, l'.getElem?_ask_of_ne c hkey, hagree]
            rw [Limiter.decisions, Limiter.decisions, decisionsFor_cons_of_ne hne,
              decisionsFor_cons_of_ne hne]
            exact ih hnext hroom hroom'

/-- Callers with counters of their own leave each other alone. -/
theorem isolated_of_key_ne
    (h : a.key ≠ b.key) :
    Isolated a b := by
  intro before later time hroom hroom'
  have hne : a ≠ b := by
    rintro rfl
    exact h rfl
  rw [Limiter.decisions_append, Limiter.decisions_append, decisionsFor_append,
    decisionsFor_append, Limiter.decisions, decisionsFor_cons_of_ne hne]
  congr 1
  refine decisionsFor_congr ?_ (Limiter.roomy_append hroom) (Limiter.roomy_append hroom')
  exact Limiter.getElem?_ask_of_ne _ ⟨a, time⟩ h

/-- A check on an empty limiter under a limit that is not zero is admitted. -/
theorem ask_empty
    (c : Check)
    (hlimit : 0 < c.policy.limit) :
    (({} : Limiter).ask c).2 = ⟨true, c.policy.limit - 1, c.policy.period⟩ ∧
    (({} : Limiter).ask c).1.counters[c.key]? =
      some ⟨c.time, 1, microReading (c.time + c.policy.period)⟩ := by
  have hanswer : ({} : Limiter).answering c = .opened c.policy.period c.time := by
    unfold Limiter.answering Limiter.found
    rw [Std.ExtTreeMap.getElem?_empty, Option.getD_none]
  rw [Limiter.getElem?_ask_self, Limiter.ask_snd, hanswer, Counter.attempt_opened _ _ hlimit]
  exact ⟨rfl, rfl⟩

/-- A caller that shares its counter with another one finds a quota that is smaller by one. -/
theorem not_isolated_of_key_eq
    (hne : a ≠ b)
    (hkey : a.key = b.key)
    (hlimit : 0 < a.policy.limit)
    (hlimit' : 0 < b.policy.limit)
    (hperiod : 0 < b.policy.period) :
    ¬ Isolated a b := by
  intro h
  -- Both come at once, and there is nobody else.
  have hsame := h [] [.check ⟨b, 0⟩] 0 trivial trivial
  have hlone := (ask_empty ⟨b, 0⟩ hlimit').1
  have hfound : (({} : Limiter).ask ⟨a, 0⟩).1.answering ⟨b, 0⟩ =
      ⟨0, 1, microReading (0 + a.policy.period)⟩ := by
    have hcounter := (ask_empty ⟨a, 0⟩ hlimit).2
    unfold Limiter.answering Limiter.found
    rw [← hkey, hcounter, Option.getD_some]
  have hkept : (Counter.mk 0 1 (microReading (0 + a.policy.period))).renewed b.policy.period 0 =
      ⟨0, 1, microReading (0 + a.policy.period)⟩ :=
    if_neg (Nat.not_le_of_lt hperiod)
  have hsecond : decisionsFor b (({} : Limiter).decisions [.check ⟨a, 0⟩, .check ⟨b, 0⟩]) =
      [(0, ((({} : Limiter).ask ⟨a, 0⟩).1.ask ⟨b, 0⟩).2)] := by
    rw [Limiter.decisions, decisionsFor_cons_of_ne hne]
    simp [Limiter.decisions, decisionsFor]
  have honly : decisionsFor b (({} : Limiter).decisions [.check ⟨b, 0⟩]) =
      [(0, (({} : Limiter).ask ⟨b, 0⟩).2)] := by
    simp [Limiter.decisions, decisionsFor]
  rw [List.nil_append, List.nil_append, hsecond, honly, hlone, Limiter.ask_snd, hfound] at hsame
  rcases Counter.attempt_cases (.mk 0 1 (microReading (0 + a.policy.period))) b.policy 0 with
    ⟨_, ha⟩ | ⟨hroom, ha⟩
  · rw [ha] at hsame
    cases hsame
  · rw [hkept] at hroom ha
    rw [ha] at hsame
    have hremaining : b.policy.limit - (1 + 1) = b.policy.limit - 1 :=
      congrArg (fun r => r.2.remaining) (List.cons.inj hsame).1
    simp only at hroom
    omega

end Decisions

/--
Two callers of limited routes of one table that differ in the route or in the identifier leave each
other alone if and only if they are not entangled.
-/
theorem isolated_iff
    {generation : Nat}
    {c : Config.Gateway}
    {t : RouteTable}
    (hcompile : RouteTable.compile generation c = .ok t)
    {r₁ r₂ : Route}
    (h₁ : r₁ ∈ t.routes)
    (h₂ : r₂ ∈ t.routes)
    {p₁ p₂ : Policy}
    (hp₁ : r₁.rateLimit = some p₁)
    (hp₂ : r₂.rateLimit = some p₂)
    (headers₁ headers₂ : Headers)
    (hne : (r₁.key, p₁.clientId headers₁) ≠ (r₂.key, p₂.clientId headers₂)) :
    Isolated ⟨p₁, r₁.key, p₁.clientId headers₁⟩ ⟨p₂, r₂.key, p₂.clientId headers₂⟩ ↔
      ¬ Entangled r₁.key (p₁.clientId headers₁) r₂.key (p₂.clientId headers₂) := by
  obtain ⟨hlimit₁, _, hnamed₁⟩ := RouteTable.policy_of_compile hcompile h₁ hp₁
  obtain ⟨hlimit₂, hperiod₂, hnamed₂⟩ := RouteTable.policy_of_compile hcompile h₂ hp₂
  have hkey := counterKey_eq_iff (hnamed₁.trans hnamed₂.symm) r₁.key (p₁.clientId headers₁)
    r₂.key (p₂.clientId headers₂)
  have hpair : ¬ (r₁.key = r₂.key ∧ p₁.clientId headers₁ = p₂.clientId headers₂) :=
    fun h => hne (Prod.ext h.1 h.2)
  constructor
  · intro hisolated hentangled
    have hcallers : Caller.mk p₁ r₁.key (p₁.clientId headers₁) ≠
        Caller.mk p₂ r₂.key (p₂.clientId headers₂) :=
      fun h => hpair ⟨congrArg Caller.routeKey h, congrArg Caller.client h⟩
    have hshared : (Caller.mk p₁ r₁.key (p₁.clientId headers₁)).key =
        (Caller.mk p₂ r₂.key (p₂.clientId headers₂)).key :=
      hkey.2 (Or.inr hentangled)
    exact not_isolated_of_key_eq hcallers hshared hlimit₁ hlimit₂ hperiod₂ hisolated
  · intro hentangled
    refine isolated_of_key_ne fun h => ?_
    rcases hkey.1 h with h | h
    · exact hpair h
    · exact hentangled h

section Collision

/-- A limited route, and another one whose path goes on where the first one ends. -/
def neighbours : Config.Gateway where
  routes :=
    [{ upstreamPathTemplate := "/a"
       downstreamPathTemplate := "/one"
       downstreamHosts := [⟨"backend", 8080⟩]
       rateLimit := some { period := "1m", limit := 1 } },
     { upstreamPathTemplate := "/a:b"
       downstreamPathTemplate := "/two"
       downstreamHosts := [⟨"backend", 8080⟩]
       rateLimit := some { period := "1m", limit := 1 } }]

/-- The policy of both routes. -/
def oncePerMinute : Policy where
  clientIdHeader := ⟨"clientid"⟩
  clientWhitelist := []
  period := 60000000000
  periodLabel := "1m"
  limit := 1
  disableHeaders := false
  quotaExceededMessage := defaultQuotaMessage
  statusCode := 429
  counterPrefix := "sluice"

/-- The headers of a caller with an identifier. -/
def identified (client : String) : Headers :=
  ({} : Headers).setText ⟨"clientid"⟩ client

theorem exists_compile_neighbours :
    ∃ t r₁ r₂,
      RouteTable.compile 0 neighbours = .ok t ∧
      r₁ ∈ t.routes ∧ r₁.key = "*|/a" ∧ r₁.rateLimit = some oncePerMinute ∧
      r₂ ∈ t.routes ∧ r₂.key = "*|/a:b" ∧ r₂.rateLimit = some oncePerMinute := by
  have hroutes :
      (RouteTable.compile 0 neighbours).toOption.map
          (fun t => t.routes.map fun r => (r.key, r.rateLimit)) =
        some [("*|/a", some oncePerMinute), ("*|/a:b", some oncePerMinute)] := by
    decide +kernel
  cases ht : RouteTable.compile 0 neighbours with
  | error e =>
      rw [ht] at hroutes
      cases hroutes
  | ok t =>
      rw [ht] at hroutes
      have hmap : t.routes.map (fun r => (r.key, r.rateLimit)) =
          [("*|/a", some oncePerMinute), ("*|/a:b", some oncePerMinute)] :=
        Option.some.inj hroutes
      have hfirst : ("*|/a", some oncePerMinute) ∈ t.routes.map fun r => (r.key, r.rateLimit) := by
        rw [hmap]
        exact List.mem_cons_self
      have hsecond :
          ("*|/a:b", some oncePerMinute) ∈ t.routes.map fun r => (r.key, r.rateLimit) := by
        rw [hmap]
        exact List.mem_cons_of_mem _ List.mem_cons_self
      obtain ⟨r₁, h₁, hr₁⟩ := List.mem_map.1 hfirst
      obtain ⟨r₂, h₂, hr₂⟩ := List.mem_map.1 hsecond
      exact ⟨t, r₁, r₂, rfl, h₁, congrArg Prod.fst hr₁, congrArg Prod.snd hr₁,
        h₂, congrArg Prod.fst hr₂, congrArg Prod.snd hr₂⟩

theorem validate_neighbours : neighbours.validate = .ok () := by
  have h : neighbours.validate.toOption = some () := by decide +kernel
  cases hv : neighbours.validate with
  | error v =>
      rw [hv] at h
      cases h
  | ok u => rfl

/-- The configuration is accepted, and callers of its routes get into each other's way. -/
theorem isolated_iff_neighbours :
    neighbours.validate = .ok () ∧
    ∃ t r₁ r₂,
      RouteTable.compile 0 neighbours = .ok t ∧
      r₁ ∈ t.routes ∧
      r₂ ∈ t.routes ∧
      ¬ Isolated
        ⟨oncePerMinute, r₁.key, oncePerMinute.clientId (identified "b:c")⟩
        ⟨oncePerMinute, r₂.key, oncePerMinute.clientId (identified "c")⟩ := by
  obtain ⟨t, r₁, r₂, ht, h₁, hkey₁, hp₁, h₂, hkey₂, hp₂⟩ := exists_compile_neighbours
  have hclient₁ : oncePerMinute.clientId (identified "b:c") = "b:c" := by decide +kernel
  have hclient₂ : oncePerMinute.clientId (identified "c") = "c" := by decide +kernel
  have hne : (r₁.key, oncePerMinute.clientId (identified "b:c")) ≠
      (r₂.key, oncePerMinute.clientId (identified "c")) := by
    rw [hkey₁, hkey₂, hclient₁, hclient₂]
    decide
  refine ⟨validate_neighbours, t, r₁, r₂, ht, h₁, h₂, fun hisolated => ?_⟩
  refine (isolated_iff ht h₁ h₂ hp₁ hp₂ _ _ hne).1 hisolated ?_
  rw [hkey₁, hkey₂, hclient₁, hclient₂]
  exact ⟨"b", Or.inl ⟨by decide, by decide⟩⟩

end Collision
end RateLimit
end ApiGateway
