import ApiGateway.Balancer.Registry
import ApiGateway.Proofs.Route.Compilation

/-!
# Looking up a load balancer

What a registry does for a route: it finds the load balancer that is registered, or it makes one and
registers it, or it makes one without registering it, or making one fails. `entered_enter` lists the
four with their conditions, and `get_eq_enter` says that the look-up in front of it only saves the
way.
-/

namespace ApiGateway
namespace BalancerRegistry

/-- A registry with one load balancer more, which is made for a route but not registered. -/
def add (r : BalancerRegistry) (route : Route) (source : ServiceSource) : BalancerRegistry :=
  { r with balancers := r.balancers.push ⟨source, .ofKind route.balancerKind⟩ }

/-- A registry with one load balancer more, which is in charge of a route. -/
def install (r : BalancerRegistry) (route : Route) (source : ServiceSource) : BalancerRegistry :=
  { r.add route source with
    registered := r.registered.insert route.key ⟨route.generation, r.balancers.size⟩ }

/-- What comes of a route that enters a registry. -/
inductive Entered (r : BalancerRegistry) (route : Route) :
    Except GatewayError (BalancerRegistry × Nat) → Prop
  | found {current : RegisteredBalancer} :
      r.registered[route.key]? = some current →
      current.generation = route.generation →
      Entered r route (.ok (r, current.index))
  | detached {current : RegisteredBalancer} {source : ServiceSource} :
      r.registered[route.key]? = some current →
      route.generation < current.generation →
      r.directory.source route.key route.serviceName route.downstreamHosts = .ok source →
      Entered r route (.ok (r.add route source, r.balancers.size))
  | installed {source : ServiceSource} :
      (∀ current, r.registered[route.key]? = some current →
        current.generation < route.generation) →
      r.directory.source route.key route.serviceName route.downstreamHosts = .ok source →
      Entered r route (.ok (r.install route source, r.balancers.size))
  | failed {e : GatewayError} :
      (∀ current, r.registered[route.key]? = some current →
        current.generation ≠ route.generation) →
      r.directory.source route.key route.serviceName route.downstreamHosts = .error e →
      Entered r route (.error e)

section Ways

variable (r : BalancerRegistry)
variable (route : Route)

/-- To make a load balancer takes the source of its route. -/
theorem build_eq :
    r.build route =
      (r.directory.source route.key route.serviceName route.downstreamHosts).map fun source =>
        (r.add route source, r.balancers.size) := by
  unfold build
  cases r.directory.source route.key route.serviceName route.downstreamHosts <;> rfl

theorem register_eq :
    r.register route =
      (r.directory.source route.key route.serviceName route.downstreamHosts).map fun source =>
        (r.install route source, r.balancers.size) := by
  unfold register
  rw [build_eq]
  cases r.directory.source route.key route.serviceName route.downstreamHosts <;> rfl

theorem entered_enter : Entered r route (r.enter route) := by
  unfold enter
  cases hcurrent : r.registered[route.key]? with
  | none =>
      rw [register_eq]
      cases hsource : r.directory.source route.key route.serviceName route.downstreamHosts with
      | error e => exact .failed (by simp [hcurrent]) hsource
      | ok source => exact .installed (by simp [hcurrent]) hsource
  | some current =>
      dsimp only
      split
      · rename_i hsame
        exact .found hcurrent hsame
      · rename_i hdiffer
        split
        · rename_i holder
          rw [build_eq]
          cases hsource : r.directory.source route.key route.serviceName route.downstreamHosts with
          | error e => exact .failed (by simp [hcurrent, hdiffer]) hsource
          | ok source => exact .detached hcurrent holder hsource
        · rename_i hnewer
          rw [register_eq]
          cases hsource : r.directory.source route.key route.serviceName route.downstreamHosts with
          | error e => exact .failed (by simp [hcurrent, hdiffer]) hsource
          | ok source =>
              refine .installed ?_ hsource
              intro current' hcurrent'
              cases hcurrent.symm.trans hcurrent'
              exact Nat.lt_of_le_of_ne (Nat.le_of_not_lt hnewer) hdiffer

/-- What is looked up is what the entry finds. -/
theorem enter_of_lookUp? {i : Nat} (h : r.lookUp? route = some i) :
    r.enter route = .ok (r, i) := by
  unfold lookUp? at h
  unfold enter
  cases hcurrent : r.registered[route.key]? with
  | none =>
      rw [hcurrent] at h
      cases h
  | some current =>
      simp only [hcurrent] at h ⊢
      split at h
      · rename_i hsame
        cases h
        exact if_pos hsame
      · cases h

theorem get_eq_enter : r.get route = r.enter route := by
  unfold get
  cases h : r.lookUp? route with
  | none => rfl
  | some i => exact (r.enter_of_lookUp? route h).symm

theorem entered_get : Entered r route (r.get route) :=
  r.get_eq_enter route ▸ r.entered_enter route

end Ways

end BalancerRegistry
end ApiGateway
