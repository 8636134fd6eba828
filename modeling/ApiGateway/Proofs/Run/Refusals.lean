import ApiGateway.Proofs.Exchange.PassedClaims
import ApiGateway.Run.Basic

/-!
# Causes that the stages give

Six causes tell that a stage misses what another one should have left to it (`IsBookkeeping`). What
the stages call on the way can fail for many reasons, but none of them is one of these six
(`Foreseen`).
-/

namespace ApiGateway

namespace GatewayError

/-- The wordings of a stage that misses what earlier ones should have left to it. -/
def bookkeepingTexts : List String :=
  ["no downstream route in context", "no downstream request to address", "no downstream request",
    "downstream call without a lease", "no downstream response", "pipeline produced no response"]

/-- A cause of a stage that misses what earlier ones should have left to it. -/
def IsBookkeeping (e : GatewayError) : Prop :=
  e ∈ bookkeepingTexts.map internal

instance (e : GatewayError) : Decidable e.IsBookkeeping :=
  inferInstanceAs (Decidable (e ∈ _))

theorem IsBookkeeping.exists_text
    {e : GatewayError}
    (h : e.IsBookkeeping) :
    ∃ text ∈ bookkeepingTexts, e = internal text := by
  obtain ⟨text, htext, rfl⟩ := List.mem_map.1 h
  exact ⟨text, htext, rfl⟩

/-- How the wordings of other internal causes begin. -/
def internalFronts : List String :=
  ["downstream template '", "claim '", "header '", "downstream uri '", "downstream uri: "]

theorem not_prefix_of_mem_internalFronts :
    ∀ front ∈ internalFronts, ∀ text ∈ bookkeepingTexts, ¬ front.toList <+: text.toList := by
  decide +kernel

/-- A wording that begins in such a way is none of those. -/
theorem not_isBookkeeping_internal
    {front text : String}
    (hfront : front ∈ internalFronts)
    (htext : front.toList <+: text.toList) :
    ¬ (internal text).IsBookkeeping := by
  intro h
  obtain ⟨t, ht, heq⟩ := h.exists_text
  cases heq
  exact not_prefix_of_mem_internalFronts front hfront _ ht htext

end GatewayError

/-- If a result is a refusal, its cause is not that an earlier stage has left something out. -/
def Foreseen {α : Type} (r : Except GatewayError α) : Prop :=
  ∀ e, r = .error e → ¬ e.IsBookkeeping

section Results

variable {α β : Type}

theorem foreseen_ok (a : α) : Foreseen (.ok a : Except GatewayError α) :=
  nofun

theorem foreseen_error
    {e : GatewayError}
    (h : ¬ e.IsBookkeeping) :
    Foreseen (.error e : Except GatewayError α) := by
  rintro _ ⟨⟩
  exact h

/-- What stages leave to each other is an internal matter. -/
theorem foreseen_of_ne_internal
    {e : GatewayError}
    (h : ∀ text, e ≠ .internal text) :
    Foreseen (.error e : Except GatewayError α) := by
  refine foreseen_error fun hbook => ?_
  obtain ⟨text, _, heq⟩ := hbook.exists_text
  exact h text heq

theorem foreseen_internal
    {text : String}
    (front : String)
    (hfront : front ∈ GatewayError.internalFronts)
    (htext : front.toList <+: text.toList) :
    Foreseen (.error (.internal text) : Except GatewayError α) :=
  foreseen_error (GatewayError.not_isBookkeeping_internal hfront htext)

theorem Foreseen.bind
    {r : Except GatewayError α}
    {f : α → Except GatewayError β}
    (h : Foreseen r)
    (hf : ∀ a, r = .ok a → Foreseen (f a)) :
    Foreseen (r >>= f) := by
  cases r with
  | error e => exact fun e' he => h e' (by cases he; rfl)
  | ok a => exact hf a rfl

theorem Foreseen.map
    {r : Except GatewayError α}
    (h : Foreseen r)
    (f : α → β) :
    Foreseen (r.map f) := by
  cases r with
  | error e => exact fun e' he => h e' (by cases he; rfl)
  | ok a => exact foreseen_ok _

theorem foreseen_mapM
    {f : α → Except GatewayError β}
    (h : ∀ a, Foreseen (f a))
    (as : List α) :
    Foreseen (as.mapM f) := by
  induction as with
  | nil => exact foreseen_ok _
  | cons a as ih =>
      rw [List.mapM_cons]
      exact (h a).bind fun _ _ => ih.bind fun _ _ => foreseen_ok _

theorem foreseen_foldlM
    {f : β → α → Except GatewayError β}
    (h : ∀ b a, Foreseen (f b a))
    (as : List α)
    (b : β) :
    Foreseen (as.foldlM f b) := by
  induction as generalizing b with
  | nil => exact foreseen_ok _
  | cons a as ih =>
      rw [List.foldlM_cons]
      exact (h b a).bind fun _ _ => ih _

end Results

section Requests

open GatewayError (internalFronts)

theorem Template.foreseen_substitute (template : String) (m : PathMatch) :
    Foreseen (substitute template m) := by
  unfold substitute
  split
  · exact foreseen_ok _
  split
  · exact foreseen_of_ne_internal nofun
  split
  · exact foreseen_ok _
  · refine foreseen_internal "downstream template '" (by simp [internalFronts]) ?_
    simp [String.toList_append]

theorem RouteTable.foreseen_resolve (t : RouteTable) (method : Method) (path : String) :
    Foreseen (t.resolve method path) := by
  have htried := t.tried_resolve method path
  generalize t.resolve method path = result at htried ⊢
  cases htried with
  | taken => exact (Template.foreseen_substitute _ _).map _
  | refused =>
      unfold refusal
      split <;> exact foreseen_of_ne_internal fun _ h => GatewayError.noConfusion h

theorem Claims.foreseen_authorise
    (c : Claims)
    (required : List (String × String))
    (allowed : List String) :
    Foreseen (c.authorise required allowed) := by
  unfold authorise
  split
  · exact foreseen_of_ne_internal nofun
  · split
    · exact foreseen_ok _
    · exact foreseen_of_ne_internal nofun

theorem ClaimsExpression.foreseen_extract (e : ClaimsExpression) (c : Claims) :
    Foreseen (e.extract c) := by
  have hfront : "claim '" ∈ internalFronts := by simp [internalFronts]
  unfold extract
  split
  · exact foreseen_internal _ hfront (by simp [String.toList_append, toString])
  split
  · exact foreseen_ok _
  split
  · exact foreseen_ok _
  · exact foreseen_internal _ hfront (by simp [String.toList_append, toString])

theorem Headers.foreseen_addClaim (claims : Claims) (h : Headers) (e : ClaimsExpression) :
    Foreseen (addClaim claims h e) := by
  have hfront : "header '" ∈ internalFronts := by simp [internalFronts]
  refine (e.foreseen_extract claims).bind fun value _ => ?_
  split
  · exact foreseen_internal _ hfront (by simp [String.toList_append, toString])
  · exact foreseen_internal _ hfront (by simp [String.toList_append, toString])
  · exact foreseen_ok _

namespace Exchange

theorem foreseen_targetOf (r : ResolvedRoute) (query : Option String) (claims : Claims) :
    Foreseen (targetOf r query claims) := by
  have hpiece : ∀ e, Foreseen (claimPiece claims e) := fun e =>
    (e.foreseen_extract claims).bind fun _ _ => foreseen_ok _
  exact (foreseen_mapM hpiece _).bind fun _ _ => foreseen_ok _

variable {x : Exchange}
variable {found : ResolvedRoute}

/-- With a route, the target can only fail for lack of a claim. -/
theorem foreseen_target
    (h : x.resolved = some found) :
    Foreseen x.target := by
  unfold target
  rw [route_eq_ok_iff.2 h]
  exact foreseen_targetOf found _ _

theorem foreseen_cacheKeyOf
    (h : x.resolved = some found)
    (p : Cache.Policy) :
    Foreseen (Stage.cacheKeyOf x p) := by
  unfold Stage.cacheKeyOf
  rw [route_eq_ok_iff.2 h]
  exact (foreseen_target h).bind fun _ _ => foreseen_ok _

theorem foreseen_buildOutbound
    (h : x.resolved = some found) :
    Foreseen x.buildOutbound := by
  unfold buildOutbound
  rw [route_eq_ok_iff.2 h]
  refine (foreseen_target h).bind fun target _ => ?_
  have hheaders : Foreseen (x.outboundHeaders found.route) :=
    (foreseen_foldlM (Headers.foreseen_addClaim x.callerClaims) _ _).bind fun _ _ => foreseen_ok _
  refine hheaders.bind fun headers _ => ?_
  split
  · refine foreseen_internal "downstream uri '" (by simp [internalFronts]) ?_
    simp [String.toList_append, toString]
  · exact foreseen_ok _

end Exchange

theorem Request.foreseen_sendTo (q : Request) (scheme endpoint : String) :
    Foreseen (q.sendTo scheme endpoint) := by
  unfold sendTo
  split
  · refine foreseen_internal "downstream uri: " (by simp [internalFronts]) ?_
    simp [String.toList_append, toString]
  · exact foreseen_ok _

end Requests

section Leases

theorem Balancer.foreseen_pick (r : Rule) (services : List Service) :
    Foreseen (r.pick services) := by
  cases r <;> cases services <;> first | exact foreseen_ok _ | exact foreseen_of_ne_internal nofun

theorem ServiceSource.foreseen_endRead
    (s : ServiceSource)
    (p : RegisteredService.PendingRead)
    (exchange : Consul.Exchange)
    (now : Instant) :
    Foreseen (s.endRead p exchange now).2 := by
  cases s with
  | listed services => exact foreseen_ok _
  | registered r =>
      unfold endRead RegisteredService.endRead
      dsimp only
      split
      · exact foreseen_ok _
      · unfold RegisteredService.PendingRead.afterFailure
        split
        · exact foreseen_ok _
        · exact foreseen_of_ne_internal nofun

theorem ServiceSource.foreseen_read
    (s : ServiceSource)
    (exchange : Consul.Exchange)
    (now : Instant) :
    Foreseen (s.read exchange now).2 := by
  unfold read
  split
  · exact foreseen_ok _
  · exact s.foreseen_endRead _ exchange now

theorem Balancer.foreseen_choose
    (b : Balancer)
    {read : ServiceSource × Except GatewayError (List Service)}
    (h : Foreseen read.2) :
    Foreseen (b.choose read).2 := by
  obtain ⟨source, result⟩ := read
  cases result with
  | error e => exact foreseen_error (h e rfl)
  | ok services =>
      have hpick := foreseen_pick b.rule services
      unfold choose
      dsimp only
      split
      · exact foreseen_error (hpick _ ‹_›)
      · exact foreseen_ok _

namespace BalancerRegistry

theorem foreseen_get (r : BalancerRegistry) (route : Route) : Foreseen (r.get route) := by
  have hbuild : Foreseen (r.build route) := by
    refine Foreseen.bind ?_ fun _ _ => foreseen_ok _
    unfold ServiceDirectory.source
    split
    · exact foreseen_ok _
    · split
      · exact foreseen_ok _
      · exact foreseen_of_ne_internal nofun
  have hregister : Foreseen (r.register route) := hbuild.bind fun _ _ => foreseen_ok _
  unfold get
  split
  · exact foreseen_ok _
  · unfold enter
    split
    · exact hregister
    · split
      · exact foreseen_ok _
      · split
        · exact hbuild
        · exact hregister

theorem foreseen_leaseBy
    (r : BalancerRegistry)
    (i : Nat)
    {take : Balancer → Balancer × Except GatewayError Service}
    (h : ∀ b, Foreseen (take b).2) :
    Foreseen (r.leaseBy i take).2 := by
  unfold leaseBy
  split
  · exact foreseen_error (by decide)
  · exact (h _).map _

end BalancerRegistry

theorem Gateway.foreseen_takeLease (s : Surroundings) (g : Gateway) (r : Route) :
    Foreseen (g.takeLease s r).2 := by
  have hget := g.balancers.foreseen_get r
  unfold takeLease
  split
  · exact foreseen_error (hget _ ‹_›)
  · exact BalancerRegistry.foreseen_leaseBy _ _ fun b =>
      b.foreseen_choose (b.source.foreseen_read s.registry s.now)

theorem Gateway.foreseen_endLease (s : Surroundings) (g : Gateway) (p : PendingLease) :
    Foreseen (g.endLease s p).2 :=
  BalancerRegistry.foreseen_leaseBy _ _ fun b =>
    b.foreseen_choose (b.source.foreseen_endRead p.read s.registry s.now)

end Leases

theorem Qos.foreseen_enter
    (r : BreakerRegistry)
    (policy : Option Policy)
    (scope : String)
    (now : Instant) :
    Foreseen (enter r policy scope now).2 := by
  cases policy with
  | none => exact foreseen_ok _
  | some p =>
      unfold enter
      dsimp only
      split
      · exact foreseen_ok _
      · exact foreseen_ok _
      · exact foreseen_of_ne_internal nofun

end ApiGateway
