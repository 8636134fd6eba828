import ApiGateway.Proofs.Balancer.Generations

/-!
# Load balancers as they were made

What leases do to load balancers is to move their rules on and to refresh their lists of backends.
The outline of a registry forgets both: it shows every load balancer as it was made. Leases and
returns leave the outline as it is, and a load balancer is looked up in the outline as in the
registry itself. So what is known of registries in which nobody takes leases is true of the outline.
-/

namespace ApiGateway

/-- A source that has not read anything yet. -/
def ServiceSource.origin : ServiceSource → ServiceSource
  | listed services => listed services
  | registered service => registered { service with latest := none }

namespace ServiceSource

variable (source : ServiceSource)
variable (exchange : Consul.Exchange)
variable (now : Instant)

theorem origin_endRead (p : RegisteredService.PendingRead) :
    (source.endRead p exchange now).1.origin = source.origin := by
  cases source with
  | listed services => rfl
  | registered service =>
      unfold endRead
      dsimp only
      unfold RegisteredService.endRead
      split <;> rfl

/-- To read leaves the origin as it is. -/
theorem origin_read : (source.read exchange now).1.origin = source.origin := by
  unfold read
  cases source.beginRead now with
  | ok services => rfl
  | error p => exact source.origin_endRead exchange now p

/-- What a directory gives has not read anything yet. -/
theorem origin_of_directory
    {directory : ServiceDirectory}
    {key : String}
    {serviceName : Option String}
    {hosts : List Service}
    {source : ServiceSource}
    (h : directory.source key serviceName hosts = .ok source) :
    source.origin = source := by
  unfold ServiceDirectory.source at h
  split at h
  · cases h
    rfl
  · split at h
    · cases h
      rfl
    · cases h

end ServiceSource

namespace Balancer

/-- A load balancer as it was made. -/
def unused (b : Balancer) : Balancer := ⟨b.source.origin, .ofKind b.rule.kind⟩

namespace Rule

@[simp] theorem kind_ofKind (kind : Kind) : (ofKind kind).kind = kind := by
  cases kind <;> rfl

theorem kind_pick
    {r r' : Rule}
    {services : List Service}
    {s : Service}
    (h : r.pick services = .ok (s, r')) :
    r'.kind = r.kind := by
  cases r <;> cases services <;> cases h <;> rfl

theorem kind_release (r : Rule) (endpoint : String) : (r.release endpoint).kind = r.kind := by
  cases r with
  | byLoad m =>
      unfold release
      dsimp only
      split <;> rfl
  | _ => rfl

end Rule

/-- A choice leaves a load balancer as it was made, if the read does. -/
theorem unused_choose
    (b : Balancer)
    {read : ServiceSource × Except GatewayError (List Service)}
    (h : read.1.origin = b.source.origin) :
    (b.choose read).1.unused = b.unused := by
  obtain ⟨source, result⟩ := read
  cases result with
  | error e => exact congrArg (Balancer.mk · _) h
  | ok services =>
      unfold choose
      cases hpick : b.rule.pick services with
      | error e =>
          simp only [hpick]
          exact congrArg (Balancer.mk · _) h
      | ok chosen =>
          obtain ⟨s, rule⟩ := chosen
          simp only [hpick, unused, Rule.kind_pick hpick]
          exact congrArg (Balancer.mk · _) h

theorem unused_release (b : Balancer) (endpoint : String) :
    (b.release endpoint).unused = b.unused := by
  unfold unused release
  rw [b.rule.kind_release endpoint]

/-- A load balancer that was just made is as it was made. -/
theorem unused_made
    {directory : ServiceDirectory}
    {key : String}
    {serviceName : Option String}
    {hosts : List Service}
    {source : ServiceSource}
    (h : directory.source key serviceName hosts = .ok source)
    (kind : Kind) :
    unused ⟨source, .ofKind kind⟩ = ⟨source, .ofKind kind⟩ := by
  rw [unused, ServiceSource.origin_of_directory h, Rule.kind_ofKind]

end Balancer

namespace BalancerRegistry

/-- A registry with all its load balancers as they were made. -/
def outline (r : BalancerRegistry) : BalancerRegistry :=
  { r with balancers := r.balancers.map Balancer.unused }

section Outline

variable (r : BalancerRegistry)

theorem getElem?_outline (i : Nat) :
    r.outline.balancers[i]? = (r.balancers[i]?).map Balancer.unused :=
  Array.getElem?_map ..

theorem size_outline : r.outline.balancers.size = r.balancers.size :=
  Array.size_map ..

theorem outline_of_empty
    {r : BalancerRegistry}
    (h : r.balancers = #[]) :
    r.outline = r := by
  cases r
  cases h
  exact congrArg (BalancerRegistry.mk _ · _) Array.map_empty

/-- Another load balancer in the place of one that was made like it is not seen in the outline. -/
theorem outline_setIfInBounds
    {i : Nat}
    {b b' : Balancer}
    (hb : r.balancers[i]? = some b)
    (hsame : b'.unused = b.unused) :
    outline { r with balancers := r.balancers.setIfInBounds i b' } = r.outline := by
  refine congrArg (BalancerRegistry.mk _ · _) (Array.ext_getElem? fun j => ?_)
  rw [Array.getElem?_map, Array.getElem?_map, Array.getElem?_setIfInBounds]
  split
  · rename_i hij
    subst hij
    rw [if_pos (Array.getElem?_eq_some_iff.1 hb).1, hb, Option.map_some, Option.map_some, hsame]
  · rfl

/-- Leases are not seen in the outline. -/
theorem outline_leaseBy
    (i : Nat)
    {read : Balancer → ServiceSource × Except GatewayError (List Service)}
    (hread : ∀ b, (read b).1.origin = b.source.origin) :
    (r.leaseBy i fun b => b.choose (read b)).1.outline = r.outline := by
  unfold leaseBy
  cases hb : r.balancers[i]? with
  | none => rfl
  | some b => exact r.outline_setIfInBounds hb (b.unused_choose (hread b))

theorem outline_lease (i : Nat) (exchange : Consul.Exchange) (now : Instant) :
    (r.lease i exchange now).1.outline = r.outline :=
  r.outline_leaseBy i fun b => b.source.origin_read exchange now

theorem outline_endLease (p : PendingLease) (exchange : Consul.Exchange) (now : Instant) :
    (r.endLease p exchange now).1.outline = r.outline :=
  r.outline_leaseBy p.balancer fun b => b.source.origin_endRead exchange now p.read

/-- Returns are not seen in the outline. -/
theorem outline_release (l : Lease) : (r.release l).outline = r.outline := by
  refine congrArg (BalancerRegistry.mk _ · _) (Array.ext_getElem? fun j => ?_)
  rw [Array.getElem?_map, Array.getElem?_map, release, Array.getElem?_modify]
  split
  · cases r.balancers[j]? with
    | none => rfl
    | some b => exact congrArg some (b.unused_release l.service.endpoint)
  · rfl

end Outline

section LookUp

variable {r : BalancerRegistry}
variable {route : Route}
variable {source : ServiceSource}

/-- A new load balancer is seen in the outline as it is. -/
theorem outline_add
    (h : r.directory.source route.key route.serviceName route.downstreamHosts = .ok source) :
    (r.add route source).outline = r.outline.add route source := by
  refine congrArg (BalancerRegistry.mk _ · _) ?_
  rw [add, Array.map_push, Balancer.unused_made h]
  rfl

theorem outline_install
    (h : r.directory.source route.key route.serviceName route.downstreamHosts = .ok source) :
    (r.install route source).outline = r.outline.install route source := by
  have hadd := outline_add h
  unfold install
  rw [← hadd, size_outline]
  rfl

/-- What comes of a look-up, with the registry seen in outline. -/
def seen (result : Except GatewayError (BalancerRegistry × Nat)) :
    Except GatewayError (BalancerRegistry × Nat) :=
  result.map fun found => (found.1.outline, found.2)

theorem build_outline (r : BalancerRegistry) (route : Route) :
    r.outline.build route = seen (r.build route) := by
  rw [build_eq, build_eq, size_outline]
  show (r.directory.source _ _ _).map _ = _
  cases h : r.directory.source route.key route.serviceName route.downstreamHosts with
  | error e => rfl
  | ok source => rw [Except.map, Except.map, seen, Except.map, outline_add h]

theorem register_outline (r : BalancerRegistry) (route : Route) :
    r.outline.register route = seen (r.register route) := by
  rw [register_eq, register_eq, size_outline]
  show (r.directory.source _ _ _).map _ = _
  cases h : r.directory.source route.key route.serviceName route.downstreamHosts with
  | error e => rfl
  | ok source => rw [Except.map, Except.map, seen, Except.map, outline_install h]

/-- A load balancer is looked up in the outline as in the registry itself. -/
theorem get_outline (r : BalancerRegistry) (route : Route) :
    r.outline.get route = seen (r.get route) := by
  have hregistered : r.outline.registered = r.registered := rfl
  rw [get_eq_enter, get_eq_enter, enter, enter, build_outline, register_outline, hregistered]
  cases r.registered[route.key]? with
  | none => rfl
  | some current =>
      dsimp only
      split
      · rfl
      · split <;> rfl

/-- To ask for a load balancer in the outline leads to the outline of what it leads to. -/
theorem ask_outline (r : BalancerRegistry) (route : Route) :
    r.outline.ask .whole route =
      ((r.ask .whole route).1.outline, (r.ask .whole route).2) := by
  unfold ask told
  rw [get_outline]
  cases r.get route <;> rfl

end LookUp
end BalancerRegistry
end ApiGateway
