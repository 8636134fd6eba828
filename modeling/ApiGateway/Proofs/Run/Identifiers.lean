import ApiGateway.Proofs.Run.Findings

/-!
# What a run keeps of its arrival

A run keeps its request as it arrived. Its request identifier is the own one until a route is found;
then it is what the caller sent under the name that the route has for it, if this can be read, and
still the own one if not. No other stage changes it.

Main statement: `Run.Moves.bears`.
-/

namespace ApiGateway

/-- What a run has of its request and of the identifier of it. -/
def Exchange.bearings (x : Exchange) : Request × Option ResolvedRoute × String :=
  (x.request, x.resolved, x.requestId)

theorem Exchange.bearings_eq_iff
    {x y : Exchange} :
    y.bearings = x.bearings ↔
      y.request = x.request ∧ y.resolved = x.resolved ∧ y.requestId = x.requestId := by
  rw [bearings, bearings, Prod.mk.injEq, Prod.mk.injEq]

/-- The identifier of a request that has come to a route, or to none yet. -/
def Request.identifier (request : Request) (resolved : Option ResolvedRoute) (own : String) :
    String :=
  ((resolved.bind (·.route.requestIdKey)).bind request.headers.text?).getD own

namespace Stage

section Frame

variable (s : Surroundings)
variable (g : Gateway)
variable (x : Exchange)

theorem bearings_useLease
    (r : Route)
    (taken : Gateway × Except GatewayError Lease) :
    (useLease x r taken).exchange.bearings = x.bearings := by
  obtain ⟨g', result⟩ := taken
  cases result with
  | error e => rfl
  | ok l =>
      unfold useLease
      rcases address_cases (g'.countLease r.key l.service.endpoint) x r l with
        ⟨e, h⟩ | ⟨q₀, q, _, _, h⟩ <;>
        simp only [h] <;> rfl

theorem bearings_endLease (p : PendingLease) :
    (endLease s g x p).exchange.bearings = x.bearings := by
  unfold endLease
  rcases onRoute_cases g x _ with ⟨_, h⟩ | ⟨r, _, h⟩ <;> rw [h]
  · rfl
  · exact bearings_useLease x r.route _

/-- No stage but the first one changes what a run has of its request. -/
theorem bearings_pass
    {stage : Stage}
    (hstage : stage ≠ .routeResolution) :
    (stage.pass s g x).exchange.bearings = x.bearings := by
  cases stage with
  | routeResolution => exact absurd rfl hstage
  | rateLimit =>
      rcases limitRate_cases s g x with
        ⟨_, h⟩ | ⟨r, _, _, h⟩ | ⟨r, p, l, d, _, _, _, _, ⟨_, h⟩ | ⟨_, h⟩⟩ <;>
        exact congrArg (·.exchange.bearings) h
  | authentication =>
      rcases authenticate_cases s g x with
        ⟨_, h⟩ | ⟨r, _, _, h⟩ | ⟨r, p, claims, _, _, _, h⟩ | ⟨r, p, e, _, _, _, h⟩ <;>
        exact congrArg (·.exchange.bearings) h
  | authorisation =>
      rcases authorise_cases g x with
        ⟨_, h⟩ | ⟨r, _, _, h⟩ | ⟨r, p, _, _, _, h⟩ | ⟨r, p, claims, _, _, _, _, h⟩ |
          ⟨r, p, claims, e, _, _, _, _, h⟩ <;>
        exact congrArg (·.exchange.bearings) h
  | cacheLookup =>
      rcases lookUp_cases s g x with
        ⟨_, h⟩ | ⟨r, _, _, h⟩ | ⟨r, p, e, _, _, _, _, h⟩ | ⟨r, p, key, hit, _, _, _, _, _, h⟩ |
          ⟨r, p, key, _, _, _, _, _, h⟩ <;>
        exact congrArg (·.exchange.bearings) h
  | requestConstruction =>
      rcases construct_cases s g x with ⟨q, _, h⟩ | ⟨e, _, h⟩ <;>
        exact congrArg (·.exchange.bearings) h
  | lease =>
      rcases onRoute_cases g x fun r => useLease x r.route (g.takeLease s r.route) with
        ⟨_, h⟩ | ⟨r, _, h⟩
      · exact congrArg (·.exchange.bearings) h
      · exact (congrArg (·.exchange.bearings) h).trans (bearings_useLease x r.route _)
  | backendCall =>
      rcases beginCall_cases s g x with
        ⟨e, h⟩ | ⟨r, l, q, breakers, metrics, e, _, _, _, h⟩ |
          ⟨r, l, q, scope, breakers, guard, _, _, _, _, h⟩ <;>
        exact congrArg (·.exchange.bearings) h
  | responseMapping =>
      rcases mapResponse_cases g x with ⟨e, h⟩ | ⟨r, _, h⟩ <;>
        exact congrArg (·.exchange.bearings) h
  | cacheStore =>
      rcases store_cases s g x with
        ⟨_, h⟩ | ⟨r, _, h⟩ | ⟨r, p, key, response, _, _, _, _, _, h⟩ <;>
        exact congrArg (·.exchange.bearings) h
  | release => rfl

theorem Passes.bearings
    {s : Surroundings}
    {g : Gateway}
    {x : Exchange}
    {stage : Stage}
    {p : Passage}
    (h : Passes s g x stage p)
    (hstage : stage ≠ .routeResolution) :
    p.exchange.bearings = x.bearings := by
  cases h with
  | whole => exact bearings_pass s g x hstage
  | late p => exact bearings_endLease s g x p

end Frame

end Stage

namespace Run

theorem bearings_after
    (now : Instant)
    (rest : List Stage)
    (p : Passage) :
    (after now rest p).2.exchange.bearings = p.exchange.bearings :=
  eq_after (fun _ _ => rfl) (fun _ => rfl) now rest p

/-- A run has the request that arrived, and the identifier that its route makes of its own one. -/
structure Bears (request : Request) (own : String) (r : Run) : Prop where
  order : r.remaining <:+ Stage.standard
  arrived : r.exchange.request = request
  requestId : r.exchange.requestId = request.identifier r.exchange.resolved own
  unrouted : .routeResolution ∈ r.remaining → r.exchange.resolved = none

section Bears

variable {request : Request}
variable {own : String}
variable {g : Gateway}
variable {r r' : Run}

theorem bears_start
    (request : Request)
    (peer : SocketAddress)
    (own : String)
    (now : Instant) :
    (Run.start request peer own now).Bears request own :=
  ⟨List.suffix_refl _, rfl, rfl, fun _ => rfl⟩

theorem Bears.congr
    (h : r.Bears request own)
    (hr : r'.exchange.bearings = r.exchange.bearings)
    (hremaining : r'.remaining <:+ r.remaining) :
    r'.Bears request own := by
  obtain ⟨hrequest, hresolved, hid⟩ := Exchange.bearings_eq_iff.1 hr
  refine ⟨hremaining.trans h.order, hrequest.trans h.arrived, ?_, fun hmem => ?_⟩
  · rw [hid, hresolved, h.requestId]
  · rw [hresolved, h.unrouted (hremaining.mem hmem)]

/-- Where a route is found, the identifier is what the route makes of the own one. -/
theorem bears_resolveRoute
    {x : Exchange}
    {rest : List Stage}
    (h : Run.Bears request own ⟨x, .passing (.routeResolution :: rest)⟩)
    (now : Instant)
    (hremaining : (after now rest (Stage.resolveRoute g x)).2.remaining <:+
      .routeResolution :: rest) :
    (after now rest (Stage.resolveRoute g x)).2.Bears request own := by
  obtain ⟨horder, rfl, hid, hunrouted⟩ := h
  have hnone : x.resolved = none := hunrouted List.mem_cons_self
  rcases Stage.resolveRoute_cases g x with ⟨e, _, hpass⟩ | ⟨found, _, hpass⟩
  · refine Bears.congr ⟨horder, rfl, hid, hunrouted⟩ ?_ hremaining
    rw [bearings_after, hpass]
    rfl
  · rw [hpass]
    have hrest := Stage.rest_eq_of_suffix horder (List.suffix_refl Stage.standard)
    have hpast : .routeResolution ∉ rest := by
      rw [hrest]
      decide
    refine ⟨(List.suffix_cons _ _).trans horder, rfl, ?_, fun hmem => absurd hmem hpast⟩
    have hown : x.requestId = own := by
      simpa [Request.identifier, hnone] using hid
    rw [← hown]
    rfl

/-- Whatever an event makes of a run, it keeps what it has of its arrival. -/
theorem Moves.bears
    {e : Event}
    {next : Gateway × Run}
    (h : r.Moves g e next)
    (hr : r.Bears request own) :
    next.2.Bears request own := by
  have hremaining := h.later.remaining
  cases h with
  | stays => exact hr
  | finishes x s => exact hr.congr rfl hremaining
  | @passes x stage rest s p hp =>
      by_cases hstage : stage = .routeResolution
      · subst hstage
        obtain rfl := hp.eq_pass nofun
        exact bears_resolveRoute hr s.now hremaining
      · exact hr.congr ((bearings_after _ _ _).trans (hp.bearings hstage)) hremaining
  | answered x c rest now a =>
      refine hr.congr ((bearings_after _ _ _).trans ?_) hremaining
      cases a <;> rfl
  | expired => exact hr.congr (bearings_after _ _ _) hremaining

end Bears

end Run

end ApiGateway
