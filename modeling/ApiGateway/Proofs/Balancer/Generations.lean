import ApiGateway.Proofs.Balancer.Lookup
import Mathlib.Data.List.Induction

/-!
# Load balancers of successive tables

Requests ask a registry for the load balancers of their routes, and the routes may belong to any
route table, in any order; now and then all load balancers are forgotten. A roster is a registry
with the routes that its load balancers were made for. Whoever asks goes the whole way at once, or
takes the look-up and the entry as two steps, between which others may come.

Main statement: `serves_generations`.
-/

namespace ApiGateway
namespace BalancerRegistry

/-- How much of the way to a load balancer is gone at once. -/
inductive Way
  /-- The look-up, and the entry where the look-up was in vain. -/
  | whole
  /-- The look-up alone. -/
  | lookUp
  /-- The entry alone. -/
  | entry
deriving DecidableEq

/-- The registry and the load balancer that is told; a failure leaves the registry as it is. -/
def told (r : BalancerRegistry) :
    Except GatewayError (BalancerRegistry × Nat) → BalancerRegistry × Option Nat
  | .ok found => (found.1, some found.2)
  | .error _ => (r, none)

/-- Asks for the load balancer of a route. -/
def ask (r : BalancerRegistry) (way : Way) (route : Route) : BalancerRegistry × Option Nat :=
  match way with
  | .whole => r.told (r.get route)
  | .lookUp => (r, r.lookUp? route)
  | .entry => r.told (r.enter route)

/-- What comes of a route whose load balancer is asked for. -/
inductive Asked (r : BalancerRegistry) (route : Route) : BalancerRegistry × Option Nat → Prop
  | nothing :
      Asked r route (r, none)
  | found {current : RegisteredBalancer} :
      r.registered[route.key]? = some current →
      current.generation = route.generation →
      Asked r route (r, some current.index)
  | detached {current : RegisteredBalancer} {source : ServiceSource} :
      r.registered[route.key]? = some current →
      route.generation < current.generation →
      r.directory.source route.key route.serviceName route.downstreamHosts = .ok source →
      Asked r route (r.add route source, some r.balancers.size)
  | installed {source : ServiceSource} :
      (∀ current, r.registered[route.key]? = some current →
        current.generation < route.generation) →
      r.directory.source route.key route.serviceName route.downstreamHosts = .ok source →
      Asked r route (r.install route source, some r.balancers.size)

theorem Entered.told
    {r : BalancerRegistry}
    {route : Route}
    {result : Except GatewayError (BalancerRegistry × Nat)}
    (h : Entered r route result) :
    Asked r route (r.told result) := by
  cases h with
  | found hcurrent hsame => exact .found hcurrent hsame
  | detached hcurrent holder hsource => exact .detached hcurrent holder hsource
  | installed hnewer hsource => exact .installed hnewer hsource
  | failed _ _ => exact .nothing

/-- All ways lead to the same. -/
theorem asked_ask (r : BalancerRegistry) (way : Way) (route : Route) :
    Asked r route (r.ask way route) := by
  cases way with
  | whole => exact (r.entered_get route).told
  | entry => exact (r.entered_enter route).told
  | lookUp =>
      cases h : r.lookUp? route with
      | none =>
          rw [ask, h]
          exact .nothing
      | some i =>
          have hentered := r.entered_enter route
          rw [r.enter_of_lookUp? route h] at hentered
          rw [ask, h]
          exact hentered.told

/-- If all ways fail, a load balancer for the route could not be made. -/
theorem ask_of_failed
    {r : BalancerRegistry}
    {route : Route}
    {e : GatewayError}
    (h : r.get route = .error e) :
    r.build route = .error e ∧ ∀ way, r.ask way route = (r, none) := by
  have hentered := r.entered_get route
  rw [h] at hentered
  cases hentered with
  | failed hother hsource =>
      have hlookUp : r.lookUp? route = none := by
        unfold lookUp?
        cases hcurrent : r.registered[route.key]? with
        | none => rfl
        | some current => exact if_neg (hother current hcurrent)
      constructor
      · rw [build_eq, hsource]
        rfl
      · intro way
        cases way with
        | whole => rw [ask, h, told]
        | lookUp => rw [ask, hlookUp]
        | entry => rw [ask, ← get_eq_enter, h, told]

/-- A load balancer that is made for a route: it has its kind, and its source by some directory. -/
def MadeFor (route : Route) (b : Balancer) : Prop :=
  b.rule = .ofKind route.balancerKind ∧
  ∃ directory : ServiceDirectory,
    directory.source route.key route.serviceName route.downstreamHosts = .ok b.source

/-- A load balancer that is made for a route without a service name has the listed backends. -/
theorem MadeFor.listed
    {route : Route}
    {b : Balancer}
    (h : MadeFor route b)
    (hlisted : route.serviceName = none) :
    b.source = .listed route.downstreamHosts := by
  obtain ⟨_, directory, hsource⟩ := h
  rw [hlisted] at hsource
  exact (Except.ok.inj hsource).symm

/-- A route whose load balancer was asked for, and the load balancer that was told. -/
structure Answer where
  route : Route
  index : Nat

/-- A registry with the routes that its load balancers were made for, by their numbers. -/
structure Roster where
  registry : BalancerRegistry
  makers : Array Route := #[]
  /-- What was told since all load balancers were forgotten. -/
  told : List Answer := []

namespace Roster

inductive Event
  | ask (way : Way) (route : Route)
  | clear
  | reset (directory : ServiceDirectory)

/-- Whether an event forgets all load balancers. -/
def Event.forgets : Event → Bool
  | ask _ _ => false
  | clear => true
  | reset _ => true

/-- The routes that load balancers were made for, with one more where there is a new one. -/
def makersWith (r : Roster) (registry : BalancerRegistry) (route : Route) : Array Route :=
  if registry.balancers.size = r.registry.balancers.size then r.makers else r.makers.push route

/-- The roster when a route was asked for. -/
def tell (r : Roster) (route : Route) (asked : BalancerRegistry × Option Nat) : Roster where
  registry := asked.1
  makers := r.makersWith asked.1 route
  told := r.told ++ (asked.2.map (Answer.mk route)).toList

theorem tell_none (r : Roster) (route : Route) : r.tell route (r.registry, none) = r := by
  simp [tell, makersWith]

def meet (r : Roster) : Event → Roster
  | .ask way route => r.tell route (r.registry.ask way route)
  | .clear => { r with registry := r.registry.clear, told := [] }
  | .reset directory => { r with registry := r.registry.reset directory, told := [] }

/-- The roster after events, from one without load balancers. -/
def run (directory : ServiceDirectory) (events : List Event) : Roster :=
  events.foldl meet { registry := { directory } }

/-- How a roster goes on when a route is asked for. -/
inductive Met (r : Roster) (route : Route) : Roster → Prop
  | nothing :
      Met r route r
  | found {current : RegisteredBalancer} :
      r.registry.registered[route.key]? = some current →
      current.generation = route.generation →
      Met r route { r with told := r.told ++ [⟨route, current.index⟩] }
  | detached {current : RegisteredBalancer} {source : ServiceSource} :
      r.registry.registered[route.key]? = some current →
      route.generation < current.generation →
      r.registry.directory.source route.key route.serviceName route.downstreamHosts = .ok source →
      Met r route {
        registry := r.registry.add route source
        makers := r.makers.push route
        told := r.told ++ [⟨route, r.registry.balancers.size⟩] }
  | installed {source : ServiceSource} :
      (∀ current, r.registry.registered[route.key]? = some current →
        current.generation < route.generation) →
      r.registry.directory.source route.key route.serviceName route.downstreamHosts = .ok source →
      Met r route {
        registry := r.registry.install route source
        makers := r.makers.push route
        told := r.told ++ [⟨route, r.registry.balancers.size⟩] }

theorem met_ask (r : Roster) (way : Way) (route : Route) :
    Met r route (r.meet (.ask way route)) := by
  have hasked := r.registry.asked_ask way route
  show Met r route (r.tell route (r.registry.ask way route))
  generalize r.registry.ask way route = asked at hasked ⊢
  cases hasked with
  | nothing =>
      rw [tell_none]
      exact .nothing
  | @found current hcurrent hsame =>
      have htell : r.tell route (r.registry, some current.index) =
          { r with told := r.told ++ [⟨route, current.index⟩] } := by
        simp [tell, makersWith]
      rw [htell]
      exact .found hcurrent hsame
  | @detached current source hcurrent holder hsource =>
      have htell : r.tell route (r.registry.add route source, some r.registry.balancers.size) = {
          registry := r.registry.add route source
          makers := r.makers.push route
          told := r.told ++ [⟨route, r.registry.balancers.size⟩] } := by
        simp [tell, makersWith, add]
      rw [htell]
      exact .detached hcurrent holder hsource
  | @installed source hnewer hsource =>
      have htell : r.tell route (r.registry.install route source, some r.registry.balancers.size) = {
          registry := r.registry.install route source
          makers := r.makers.push route
          told := r.told ++ [⟨route, r.registry.balancers.size⟩] } := by
        simp [tell, makersWith, install, add]
      rw [htell]
      exact .installed hnewer hsource

/-- Every load balancer has its maker, for which somebody asked. -/
structure Made (events : List Event) (r : Roster) : Prop where
  size : r.makers.size = r.registry.balancers.size
  made (i : Nat) (maker : Route) :
    r.makers[i]? = some maker →
    ∃ b, r.registry.balancers[i]? = some b ∧ MadeFor maker b
  asked (maker : Route) :
    maker ∈ r.makers → ∃ way, .ask way maker ∈ events

/-- For each key, the load balancer in charge is the one of the latest table that asked for it. -/
structure Led (r : Roster) : Prop where
  own (a : Answer) :
    a ∈ r.told →
    ∃ maker,
      r.makers[a.index]? = some maker ∧
      maker.key = a.route.key ∧
      maker.generation = a.route.generation
  latest (a : Answer) :
    a ∈ r.told →
    ∃ current,
      r.registry.registered[a.route.key]? = some current ∧
      a.route.generation ≤ current.generation ∧
      (a.route.generation = current.generation → a.index = current.index)
  registered (key : String) (current : RegisteredBalancer) :
    r.registry.registered[key]? = some current →
    ∃ a, a ∈ r.told ∧ a.route.key = key ∧ a.route.generation = current.generation

section Steps

variable {events : List Event}
variable {r : Roster}

theorem Made.later (h : Made events r) (e : Event) : Made (events ++ [e]) r where
  size := h.size
  made := h.made
  asked maker hmaker := by
    obtain ⟨way, hway⟩ := h.asked maker hmaker
    exact ⟨way, List.mem_append_left _ hway⟩

/-- One more load balancer has one more maker. -/
theorem Made.add
    (h : Made events r)
    {way : Way}
    {route : Route}
    {source : ServiceSource}
    (hsource :
      r.registry.directory.source route.key route.serviceName route.downstreamHosts = .ok source)
    {next : Roster}
    (hbalancers : next.registry.balancers = (r.registry.add route source).balancers)
    (hmakers : next.makers = r.makers.push route) :
    Made (events ++ [.ask way route]) next where
  size := by
    rw [hbalancers, hmakers]
    simp [BalancerRegistry.add, h.size]
  made i maker hi := by
    rw [hmakers, Array.getElem?_push, h.size] at hi
    rw [hbalancers, BalancerRegistry.add, Array.getElem?_push]
    split at hi
    · rename_i hlast
      cases hi
      exact ⟨_, if_pos hlast, rfl, _, hsource⟩
    · rename_i hlast
      rw [if_neg hlast]
      exact h.made i maker hi
  asked maker hmaker := by
    rw [hmakers] at hmaker
    rcases Array.mem_push.1 hmaker with hmaker | rfl
    · obtain ⟨way', hway⟩ := h.asked maker hmaker
      exact ⟨way', List.mem_append_left _ hway⟩
    · exact ⟨way, List.mem_append_right _ (List.mem_singleton.2 rfl)⟩

theorem Made.meet (h : Made events r) (e : Event) : Made (events ++ [e]) (r.meet e) := by
  cases e with
  | clear => exact ⟨h.size, h.made, (h.later _).asked⟩
  | reset directory => exact ⟨h.size, h.made, (h.later _).asked⟩
  | ask way route =>
      have hmet := r.met_ask way route
      generalize r.meet (.ask way route) = next at hmet ⊢
      cases hmet with
      | nothing => exact h.later _
      | found _ _ => exact ⟨h.size, h.made, (h.later _).asked⟩
      | detached _ _ hsource => exact h.add hsource rfl rfl
      | installed _ hsource => exact h.add hsource rfl rfl

/-- The load balancer in charge of a key was made for a route of its table. -/
theorem Led.maker
    (h : Led r)
    {key : String}
    {current : RegisteredBalancer}
    (hcurrent : r.registry.registered[key]? = some current) :
    ∃ maker,
      r.makers[current.index]? = some maker ∧
      maker.key = key ∧
      maker.generation = current.generation := by
  obtain ⟨a, ha, hkey, hgeneration⟩ := h.registered key current hcurrent
  obtain ⟨current', hcurrent', _, hindex⟩ := h.latest a ha
  rw [hkey, hcurrent] at hcurrent'
  cases hcurrent'
  rw [← hindex hgeneration, ← hkey, ← hgeneration]
  exact h.own a ha

/-- Nobody was told of a load balancer yet. -/
theorem Led.none
    (hregistered : r.registry.registered = ∅)
    (htold : r.told = []) :
    Led r where
  own a ha := by simp [htold] at ha
  latest a ha := by simp [htold] at ha
  registered key current h := by simp [hregistered] at h

/-- One more is told, which leaves the one in charge as it is. -/
theorem Led.tell
    (h : Led r)
    {route : Route}
    {i : Nat}
    {next : Roster}
    (hregistered : next.registry.registered = r.registry.registered)
    (hmakers : ∀ (j : Nat) (maker : Route),
      r.makers[j]? = some maker → next.makers[j]? = some maker)
    (htold : next.told = r.told ++ [⟨route, i⟩])
    (hown : ∃ maker,
      next.makers[i]? = some maker ∧
      maker.key = route.key ∧
      maker.generation = route.generation)
    (hlatest : ∃ current,
      r.registry.registered[route.key]? = some current ∧
      route.generation ≤ current.generation ∧
      (route.generation = current.generation → i = current.index)) :
    Led next where
  own a ha := by
    rw [htold] at ha
    rcases List.mem_append.1 ha with ha | ha
    · obtain ⟨maker, hmaker, hsame⟩ := h.own a ha
      exact ⟨maker, hmakers _ _ hmaker, hsame⟩
    · rw [List.mem_singleton.1 ha]
      exact hown
  latest a ha := by
    rw [htold] at ha
    rw [hregistered]
    rcases List.mem_append.1 ha with ha | ha
    · exact h.latest a ha
    · rw [List.mem_singleton.1 ha]
      exact hlatest
  registered key current hcurrent := by
    rw [hregistered] at hcurrent
    obtain ⟨a, ha, hsame⟩ := h.registered key current hcurrent
    exact ⟨a, htold ▸ List.mem_append_left _ ha, hsame⟩

/-- The load balancer that is put in charge is told. -/
theorem Led.install
    (h : Led r)
    {route : Route}
    {i : Nat}
    {next : Roster}
    (hregistered : next.registry.registered =
      r.registry.registered.insert route.key ⟨route.generation, i⟩)
    (hmakers : ∀ (j : Nat) (maker : Route),
      r.makers[j]? = some maker → next.makers[j]? = some maker)
    (hmaker : next.makers[i]? = some route)
    (htold : next.told = r.told ++ [⟨route, i⟩])
    (hnewer : ∀ current, r.registry.registered[route.key]? = some current →
      current.generation < route.generation) :
    Led next where
  own a ha := by
    rw [htold] at ha
    rcases List.mem_append.1 ha with ha | ha
    · obtain ⟨maker, hmaker, hsame⟩ := h.own a ha
      exact ⟨maker, hmakers _ _ hmaker, hsame⟩
    · rw [List.mem_singleton.1 ha]
      exact ⟨route, hmaker, rfl, rfl⟩
  latest a ha := by
    rw [htold] at ha
    rw [hregistered, Std.ExtTreeMap.getElem?_insert]
    rcases List.mem_append.1 ha with ha | ha
    · obtain ⟨current, hcurrent, hle, hindex⟩ := h.latest a ha
      split
      · rename_i hkey
        have hlt := hnewer current (Std.compare_eq_iff_eq.1 hkey ▸ hcurrent)
        exact ⟨_, rfl, by dsimp only; omega, by dsimp only; omega⟩
      · exact ⟨current, hcurrent, hle, hindex⟩
    · rw [List.mem_singleton.1 ha]
      exact ⟨_, if_pos (Std.compare_eq_iff_eq.2 rfl), Nat.le_refl _, fun _ => rfl⟩
  registered key current hcurrent := by
    rw [hregistered, Std.ExtTreeMap.getElem?_insert] at hcurrent
    rw [htold]
    split at hcurrent
    · rename_i hkey
      cases hcurrent
      exact ⟨_, List.mem_append_right _ (List.mem_singleton.2 rfl),
        Std.compare_eq_iff_eq.1 hkey, rfl⟩
    · obtain ⟨a, ha, hsame⟩ := h.registered key current hcurrent
      exact ⟨a, List.mem_append_left _ ha, hsame⟩

/-- A maker stays the maker when there is one more. -/
theorem getElem?_push_of_some
    {i : Nat}
    {maker : Route}
    (h : r.makers[i]? = some maker)
    (route : Route) :
    (r.makers.push route)[i]? = some maker := by
  have hlt := (Array.getElem?_eq_some_iff.1 h).1
  rw [Array.getElem?_push, if_neg (Nat.ne_of_lt hlt), h]

theorem Led.meet (hmade : Made events r) (h : Led r) (e : Event) : Led (r.meet e) := by
  cases e with
  | clear => exact .none rfl rfl
  | reset directory => exact .none rfl rfl
  | ask way route =>
      have hmet := r.met_ask way route
      generalize r.meet (.ask way route) = next at hmet ⊢
      have hmaker : (r.makers.push route)[r.registry.balancers.size]? = some route := by
        rw [← hmade.size]
        exact Array.getElem?_push_size
      cases hmet with
      | nothing => exact h
      | found hcurrent hsame =>
          obtain ⟨maker, hmaker, hkey, hgeneration⟩ := h.maker hcurrent
          exact h.tell rfl (fun _ _ => id) rfl ⟨maker, hmaker, hkey, hgeneration.trans hsame⟩
            ⟨_, hcurrent, Nat.le_of_eq hsame.symm, fun _ => rfl⟩
      | detached hcurrent holder _ =>
          exact h.tell rfl (fun _ _ hold => getElem?_push_of_some hold route) rfl
            ⟨route, hmaker, rfl, rfl⟩
            ⟨_, hcurrent, Nat.le_of_lt holder, fun hsame => absurd hsame (Nat.ne_of_lt holder)⟩
      | installed hnewer _ =>
          exact h.install rfl (fun _ _ hold => getElem?_push_of_some hold route) hmaker rfl hnewer

/-- While nothing is forgotten, no key falls back to an older table. -/
theorem generation_meet
    {e : Event}
    (he : e.forgets = false)
    {key : String}
    {current : RegisteredBalancer}
    (hcurrent : r.registry.registered[key]? = some current) :
    ∃ current',
      (r.meet e).registry.registered[key]? = some current' ∧
      current.generation ≤ current'.generation := by
  cases e with
  | clear => cases he
  | reset directory => cases he
  | ask way route =>
      have hmet := r.met_ask way route
      generalize r.meet (.ask way route) = next at hmet ⊢
      cases hmet with
      | nothing => exact ⟨current, hcurrent, Nat.le_refl _⟩
      | found _ _ => exact ⟨current, hcurrent, Nat.le_refl _⟩
      | detached _ _ _ => exact ⟨current, hcurrent, Nat.le_refl _⟩
      | installed hnewer _ =>
          simp only [BalancerRegistry.install, Std.ExtTreeMap.getElem?_insert]
          split
          · rename_i hkey
            rw [← Std.compare_eq_iff_eq.1 hkey] at hcurrent
            exact ⟨_, rfl, Nat.le_of_lt (hnewer current hcurrent)⟩
          · exact ⟨current, hcurrent, Nat.le_refl _⟩

end Steps

section Runs

variable (directory : ServiceDirectory)
variable (events : List Event)

/-- Whoever is told of a load balancer gets one that was made for a route of his key and table. -/
def TellsOwn : Prop :=
  ∀ a, a ∈ (run directory events).told →
    ∃ maker b,
      (∃ way, .ask way maker ∈ events) ∧
      maker.key = a.route.key ∧
      maker.generation = a.route.generation ∧
      (run directory events).registry.balancers[a.index]? = some b ∧
      MadeFor maker b

/-- Where there is one table for each number, it has the kind and the backends of his route. -/
def TellsFitting : Prop :=
  ∀ configs : Nat → Config.Gateway,
    (∀ way route, .ask way route ∈ events →
      ∃ table,
        RouteTable.compile route.generation (configs route.generation) = .ok table ∧
        route ∈ table.routes) →
    ∀ a, a ∈ (run directory events).told →
      ∃ b,
        (run directory events).registry.balancers[a.index]? = some b ∧
        b.rule = .ofKind a.route.balancerKind ∧
        (a.route.serviceName = none → b.source = .listed a.route.downstreamHosts)

/-- There is one load balancer in charge of a key, and it was made for a route with this key. -/
def RegistersOne : Prop :=
  (run directory events).registry.registered.keys.Nodup ∧
  ∀ key current, (run directory events).registry.registered[key]? = some current →
    ∃ maker b,
      maker.key = key ∧
      maker.generation = current.generation ∧
      (run directory events).registry.balancers[current.index]? = some b ∧
      MadeFor maker b

/-- While nothing is forgotten, the load balancer of a key is replaced for later tables only. -/
def NeverFallsBack : Prop :=
  ∀ before between (key : String) (current : RegisteredBalancer),
    events = before ++ between →
    (∀ e, e ∈ between → e.forgets = false) →
    (run directory before).registry.registered[key]? = some current →
    ∃ current',
      (run directory events).registry.registered[key]? = some current' ∧
      current.generation ≤ current'.generation

/-- Those of the latest table that has succeeded for a key are told of the same load balancer. -/
def SharesLatest : Prop :=
  ∀ a a', a ∈ (run directory events).told → a' ∈ (run directory events).told →
    a.route.key = a'.route.key →
    a.route.generation = a'.route.generation →
    (∀ other, other ∈ (run directory events).told →
      other.route.key = a.route.key →
      other.route.generation ≤ a.route.generation) →
    a.index = a'.index

/-- The look-up in front of the entry makes no difference. -/
def WaysAgree : Prop :=
  ∀ route,
    (run directory events).registry.get route = (run directory events).registry.enter route ∧
    ∀ i, (run directory events).registry.lookUp? route = some i →
      (run directory events).registry.enter route = .ok ((run directory events).registry, i)

/-- Where a load balancer cannot be made, whoever asks for it leaves all as it is. -/
def FailsCleanly : Prop :=
  ∀ route e,
    (run directory events).registry.get route = .error e →
    (run directory events).registry.build route = .error e ∧
    ∀ way, run directory (events ++ [.ask way route]) = run directory events

variable {directory : ServiceDirectory}
variable {events : List Event}

theorem run_append (events' : List Event) :
    run directory (events ++ events') = events'.foldl meet (run directory events) :=
  List.foldl_append

theorem made_led_run (directory : ServiceDirectory) (events : List Event) :
    Made events (run directory events) ∧ Led (run directory events) := by
  induction events using List.reverseRecOn with
  | nil => exact ⟨⟨rfl, by simp [run], by simp [run]⟩, .none rfl rfl⟩
  | append_singleton events e ih =>
      rw [run_append]
      exact ⟨ih.1.meet e, ih.2.meet ih.1 e⟩

theorem tellsOwn (events : List Event) : TellsOwn directory events := by
  obtain ⟨hmade, hled⟩ := made_led_run directory events
  intro a ha
  obtain ⟨maker, hmaker, hkey, hgeneration⟩ := hled.own a ha
  obtain ⟨b, hb, hfor⟩ := hmade.made _ maker hmaker
  exact ⟨maker, b, hmade.asked maker (Array.mem_of_getElem? hmaker), hkey, hgeneration, hb, hfor⟩

theorem exists_ask_of_mem_told
    {a : Answer}
    (ha : a ∈ (run directory events).told) :
    ∃ way, .ask way a.route ∈ events := by
  induction events using List.reverseRecOn with
  | nil => simp [run] at ha
  | append_singleton events e ih =>
      have hlater : a ∈ (run directory events).told →
          ∃ way, .ask way a.route ∈ events ++ [e] := by
        intro hold
        obtain ⟨way, hway⟩ := ih hold
        exact ⟨way, List.mem_append_left _ hway⟩
      rw [run_append] at ha
      cases e with
      | clear => simp [meet] at ha
      | reset directory => simp [meet] at ha
      | ask way route =>
          rcases List.mem_append.1 ha with ha | ha
          · exact hlater ha
          · obtain ⟨i, _, rfl⟩ := Option.map_eq_some_iff.1 (Option.mem_toList.1 ha)
            exact ⟨way, List.mem_append_right _ (List.mem_singleton.2 rfl)⟩

theorem tellsFitting (events : List Event) : TellsFitting directory events := by
  intro configs htabled a ha
  obtain ⟨maker, b, ⟨way, hway⟩, hkey, hgeneration, hb, hfor⟩ := tellsOwn events a ha
  obtain ⟨way', hway'⟩ := exists_ask_of_mem_told ha
  obtain ⟨table, hcompile, hmem⟩ := htabled way maker hway
  obtain ⟨table', hcompile', hmem'⟩ := htabled way' a.route hway'
  rw [hgeneration, hcompile'] at hcompile
  cases hcompile
  have hsame : maker = a.route := RouteTable.eq_of_key_eq hcompile' hmem hmem' hkey
  rw [hsame] at hfor
  exact ⟨b, hb, hfor.1, hfor.listed⟩

theorem registersOne (events : List Event) : RegistersOne directory events := by
  obtain ⟨hmade, hled⟩ := made_led_run directory events
  refine ⟨Std.ExtTreeMap.nodup_keys, ?_⟩
  intro key current hcurrent
  obtain ⟨maker, hmaker, hkey, hgeneration⟩ := hled.maker hcurrent
  obtain ⟨b, hb, hfor⟩ := hmade.made _ maker hmaker
  exact ⟨maker, b, hkey, hgeneration, hb, hfor⟩

theorem generation_after
    {r : Roster}
    {between : List Event}
    (hbetween : ∀ e, e ∈ between → e.forgets = false)
    {key : String}
    {current : RegisteredBalancer}
    (hcurrent : r.registry.registered[key]? = some current) :
    ∃ current',
      (between.foldl meet r).registry.registered[key]? = some current' ∧
      current.generation ≤ current'.generation := by
  induction between generalizing r current with
  | nil => exact ⟨current, hcurrent, Nat.le_refl _⟩
  | cons e between ih =>
      obtain ⟨next, hnext, hle⟩ := generation_meet (hbetween e List.mem_cons_self) hcurrent
      obtain ⟨last, hlast, hle'⟩ :=
        ih (fun e' he' => hbetween e' (List.mem_cons_of_mem e he')) hnext
      exact ⟨last, hlast, Nat.le_trans hle hle'⟩

theorem neverFallsBack (events : List Event) : NeverFallsBack directory events := by
  intro before between key current hsplit hbetween hcurrent
  subst hsplit
  rw [run_append]
  exact generation_after hbetween hcurrent

theorem sharesLatest (events : List Event) : SharesLatest directory events := by
  obtain ⟨_, hled⟩ := made_led_run directory events
  intro a a' ha ha' hkey hgeneration hlatest
  obtain ⟨current, hcurrent, hle, hindex⟩ := hled.latest a ha
  obtain ⟨current', hcurrent', _, hindex'⟩ := hled.latest a' ha'
  rw [← hkey, hcurrent] at hcurrent'
  cases hcurrent'
  obtain ⟨other, hother, hkey', hgeneration'⟩ := hled.registered _ current hcurrent
  have hge := hlatest other hother hkey'
  have hsame : a.route.generation = current.generation := by omega
  rw [hindex hsame, hindex' (hgeneration ▸ hsame)]

theorem failsCleanly (events : List Event) : FailsCleanly directory events := by
  intro route e he
  obtain ⟨hbuild, hask⟩ := ask_of_failed he
  refine ⟨hbuild, ?_⟩
  intro way
  rw [run_append]
  show (run directory events).tell route _ = _
  rw [hask way]
  exact tell_none _ route

/--
Whatever routes of whatever tables ask in whatever order and way, and whenever all is forgotten:
what is told was made for a route of the same key and table, one load balancer is in charge of a
key, it is replaced for later tables only and told to all routes of the latest one, whether they
take the look-up or the entry, and what cannot be made leaves no trace.
-/
theorem serves_generations (directory : ServiceDirectory) (events : List Event) :
    TellsOwn directory events ∧
    TellsFitting directory events ∧
    RegistersOne directory events ∧
    NeverFallsBack directory events ∧
    SharesLatest directory events ∧
    WaysAgree directory events ∧
    FailsCleanly directory events :=
  ⟨tellsOwn events, tellsFitting events, registersOne events, neverFallsBack events,
    sharesLatest events,
    fun route => ⟨get_eq_enter _ route, fun _ hi => enter_of_lookUp? _ route hi⟩,
    failsCleanly events⟩

end Runs

section Replacing

/-- The route with a certain key in a table, with one backend. -/
def oneBackend (generation : Nat) (host : String) : Route where
  key := "*|/a"
  generation := generation
  upstream := ⟨"/a", []⟩
  methods := []
  downstreamTemplate := "/a"
  downstreamScheme := "http"
  downstreamHosts := [.ofHostAndPort ⟨host, 80⟩]
  serviceName := none
  balancerKind := .roundRobin
  downstreamMethod := none
  rateLimit := none
  cache := none
  qos := none
  authentication := none
  claimsRequirement := []
  headersFromClaims := []
  queriesFromClaims := []
  requestIdKey := none

/-- Requests of the old and of the new table alternate; one of each comes late. -/
def oldAndNew : List Event :=
  [.ask .whole (oneBackend 0 "old"), .ask .whole (oneBackend 1 "new"),
    .ask .whole (oneBackend 0 "old"), .ask .entry (oneBackend 1 "new")]

/-- The late one of the old table gets a load balancer of its own, and the others share theirs. -/
theorem serves_generations_oldAndNew :
    ((run ⟨none⟩ oldAndNew).told.map fun a => (a.route.generation, a.index)) =
      [(0, 0), (1, 1), (0, 2), (1, 1)] ∧
    (run ⟨none⟩ oldAndNew).registry.registered.keys.Nodup ∧
    ∀ a a', a ∈ (run ⟨none⟩ oldAndNew).told → a' ∈ (run ⟨none⟩ oldAndNew).told →
      a.route.generation = 1 → a'.route.generation = 1 → a.index = a'.index := by
  obtain ⟨_, _, ⟨hnodup, _⟩, _, hshares, _⟩ := serves_generations ⟨none⟩ oldAndNew
  have hall : ∀ a, a ∈ (run ⟨none⟩ oldAndNew).told →
      a.route.key = "*|/a" ∧ a.route.generation ≤ 1 := by
    decide
  refine ⟨by decide, hnodup, ?_⟩
  intro a a' ha ha' hgeneration hgeneration'
  refine hshares a a' ha ha' ((hall a ha).1.trans (hall a' ha').1.symm)
    (hgeneration.trans hgeneration'.symm) ?_
  intro other hother _
  exact hgeneration ▸ (hall other hother).2

end Replacing

end Roster
end BalancerRegistry
end ApiGateway
