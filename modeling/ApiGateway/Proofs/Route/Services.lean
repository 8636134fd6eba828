import ApiGateway.Config.Validation
import ApiGateway.Proofs.Route.Compilation

/-!
# Where a compiled route finds its services

A compiled route carries the number of its table and, as its settings have it, listed backends or
the name of a service. The rules for configurations see to it that where a service is named there is
a registry to ask, so the directory of a valid configuration has a source for each of its routes.
-/

namespace ApiGateway

/-- A check of a whole list succeeds if it does for each member. -/
theorem forM_eq_ok
    {ε α : Type}
    {f : α → Except ε Unit}
    {xs : List α} :
    xs.forM f = .ok () ↔ ∀ x ∈ xs, f x = .ok () := by
  induction xs with
  | nil => exact iff_of_true rfl nofun
  | cons x xs ih =>
      show (f x >>= fun _ => xs.forM f) = _ ↔ _
      rw [bind_eq_ok, List.forall_mem_cons, ← ih]
      constructor
      · rintro ⟨_, hx, hxs⟩
        exact ⟨hx, hxs⟩
      · rintro ⟨hx, hxs⟩
        exact ⟨(), hx, hxs⟩

namespace Config

theorem mapError_eq_ok
    {ε ε' α : Type}
    {x : Except ε α}
    {f : ε → ε'}
    {a : α}
    (h : x.mapError f = .ok a) :
    x = .ok a := by
  cases x with
  | error e => cases h
  | ok b =>
      cases h
      rfl

/-- A requirement that is not reported holds. -/
theorem require_eq_ok
    {ε : Type}
    {holds : Bool}
    {violation : ε}
    (h : require holds violation = .ok ()) :
    holds = true := by
  cases holds with
  | true => rfl
  | false => cases h

/-- What a valid route says about where its calls go. -/
theorem Route.addressing_of_validate
    {r : Route}
    {hasDiscovery : Bool}
    (h : r.validate hasDiscovery = .ok ()) :
    r.downstreamPathTemplate.startsWith "/" = true ∧
    (r.downstreamScheme = "http" ∨ r.downstreamScheme = "https") ∧
    (r.serviceName ≠ none → hasDiscovery = true) := by
  obtain ⟨_, h, _⟩ := bind_eq_ok.1 h
  unfold validateAddressing at h
  obtain ⟨_, _, h⟩ := bind_eq_ok.1 h
  obtain ⟨_, hpath, h⟩ := bind_eq_ok.1 h
  obtain ⟨_, _, h⟩ := bind_eq_ok.1 h
  obtain ⟨_, _, h⟩ := bind_eq_ok.1 h
  obtain ⟨_, _, h⟩ := bind_eq_ok.1 h
  obtain ⟨_, _, h⟩ := bind_eq_ok.1 h
  obtain ⟨_, _, h⟩ := bind_eq_ok.1 h
  obtain ⟨_, hscheme, h⟩ := bind_eq_ok.1 h
  refine ⟨require_eq_ok hpath, by simpa using require_eq_ok hscheme, fun hnamed => ?_⟩
  cases hname : r.serviceName with
  | none => exact absurd hname hnamed
  | some name =>
      simp only [hname] at h
      obtain ⟨_, hrequire, _⟩ := bind_eq_ok.1 h
      exact require_eq_ok hrequire

theorem Gateway.discovery_of_validate
    {c : Gateway}
    (h : c.validate = .ok ())
    {r : Route}
    (hr : r ∈ c.routes)
    (hnamed : r.serviceName ≠ none) :
    c.global.serviceDiscovery.isSome = true := by
  obtain ⟨_, _, h⟩ := bind_eq_ok.1 h
  obtain ⟨_, _, h⟩ := bind_eq_ok.1 h
  obtain ⟨_, _, h⟩ := bind_eq_ok.1 h
  exact (r.addressing_of_validate (mapError_eq_ok (forM_eq_ok.1 h r hr))).2.2 hnamed

end Config

namespace ServiceDirectory

/-- The source of a route by a directory. -/
def sourceOf (d : ServiceDirectory) (route : Route) : Except GatewayError ServiceSource :=
  d.source route.key route.serviceName route.downstreamHosts

variable {d d' : ServiceDirectory}
variable {route : Route}

theorem sourceOf_listed
    (h : route.serviceName = none)
    (d : ServiceDirectory) :
    d.sourceOf route = .ok (.listed route.downstreamHosts) := by
  unfold sourceOf source
  rw [h]

/-- Two directories have the same source for a route if this does not ask them, or they agree. -/
theorem sourceOf_eq_iff :
    d.sourceOf route = d'.sourceOf route ↔ route.serviceName = none ∨ d = d' := by
  constructor
  · intro h
    cases hname : route.serviceName with
    | none => exact .inl rfl
    | some name =>
        obtain ⟨_ | ⟨client, refresh⟩⟩ := d <;> obtain ⟨_ | ⟨client', refresh'⟩⟩ := d' <;>
          simp only [sourceOf, source, hname] at h <;>
          cases h <;>
          exact .inr rfl
  · rintro (hname | rfl)
    · rw [sourceOf_listed hname, sourceOf_listed hname]
    · rfl

/-- There is no source for a route that names a service, where there is no registry to ask. -/
theorem sourceOf_error_iff :
    (∃ e, d.sourceOf route = .error e) ↔ route.serviceName ≠ none ∧ d.registry = none := by
  obtain ⟨registry⟩ := d
  unfold sourceOf source
  cases route.serviceName <;> cases registry <;> simp

end ServiceDirectory

/-- What a compiled route has from its table and its settings. -/
structure Route.CompiledFrom (generation : Nat) (c : Config.Route) (r : Route) : Prop where
  generation : r.generation = generation
  serviceName : r.serviceName = c.serviceName
  downstreamHosts : r.downstreamHosts = c.downstreamHosts.map Service.ofHostAndPort

theorem Route.compiledFrom_of_compile
    {generation : Nat}
    {global : Config.Global}
    {c : Config.Route}
    {r : Route}
    (h : Route.compile generation global c = .ok r) :
    r.CompiledFrom generation c := by
  obtain ⟨_, _, _, _, _, _, _, _, _, _, _, rfl⟩ := Route.exists_of_compile h
  exact ⟨rfl, rfl, rfl⟩

namespace RouteTable

variable {generation : Nat}
variable {c : Config.Gateway}
variable {t : RouteTable}
variable {r : Route}

theorem generation_of_mem_compile
    (h : compile generation c = .ok t)
    (hr : r ∈ t.routes) :
    r.generation = generation := by
  obtain ⟨s, _, hs⟩ := exists_of_mem_compile h hr
  exact (Route.compiledFrom_of_compile hs).generation

/-- The directory of a valid configuration has a source for each route of its table. -/
theorem exists_source_of_mem_compile
    (hvalid : c.validate = .ok ())
    (h : compile generation c = .ok t)
    (hr : r ∈ t.routes) :
    ∃ source, (ServiceDirectory.ofConfig c.global.serviceDiscovery).sourceOf r = .ok source := by
  obtain ⟨s, hs, hcompile⟩ := exists_of_mem_compile h hr
  have hsame := (Route.compiledFrom_of_compile hcompile).serviceName
  cases hname : r.serviceName with
  | none => exact ⟨_, ServiceDirectory.sourceOf_listed hname _⟩
  | some name =>
      have hdiscovery := Config.Gateway.discovery_of_validate hvalid hs (hsame ▸ hname ▸ nofun)
      obtain ⟨settings, hsettings⟩ := Option.isSome_iff_exists.1 hdiscovery
      rw [hsettings, ServiceDirectory.sourceOf, hname]
      exact ⟨_, rfl⟩

end RouteTable
end ApiGateway
