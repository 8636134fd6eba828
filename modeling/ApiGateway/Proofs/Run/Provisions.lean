import ApiGateway.Proofs.RateLimit.Advice
import ApiGateway.Proofs.Route.Paths
import ApiGateway.Proofs.Run.Refusals

/-!
# What stages leave to each other

A stage relies on what earlier ones have left to it (`Stage.Needs`). One that has what it needs
hands on what the next one needs, or it calls a backend with a request that is addressed to the
lease, or it ends the run with a response or with a refusal of its own (`Stage.orderly_pass`). So no
run comes to a stage that misses something, whatever the gateway, the authenticator and the backends
do: at any time it is in one of four states (`Run.Equipped`).

Main statement: `Run.Moves.equipped`.
-/

namespace ApiGateway

namespace Exchange

/-- Nothing was refused yet, and what the caller is told of the quota has its names. -/
def InOrder (x : Exchange) : Prop :=
  x.errors = [] ∧ x.advice.Within HeaderName.advisory

/-- A route was found, and the downstream path is what the request makes of its template. -/
def IsRouted (x : Exchange) : Prop :=
  ∃ found,
    x.resolved = some found ∧
    Template.substitute found.route.downstreamTemplate found.pathMatch = .ok found.downstreamPath

theorem IsRouted.resolved_ne_none
    {x : Exchange}
    (h : x.IsRouted) :
    x.resolved ≠ none := by
  obtain ⟨found, hfound, _⟩ := h
  rw [hfound]
  exact Option.some_ne_none found

/-- The request of an exchange to a backend, addressed to what is on lease. -/
def Addresses (x : Exchange) (q : Request) : Prop :=
  ∃ found l built,
    x.resolved = some found ∧
    x.lease = some l ∧
    x.buildOutbound = .ok built ∧
    built.sendTo found.route.downstreamScheme l.service.endpoint = .ok q

end Exchange

/-- What a stage needs of the exchange that comes to it. -/
def Stage.Needs (x : Exchange) : Stage → Prop
  | routeResolution => True
  | rateLimit | authentication | authorisation | cacheLookup | requestConstruction => x.IsRouted
  | lease => x.IsRouted ∧ ∃ q, x.outbound = some q ∧ x.buildOutbound = .ok q
  | backendCall => x.IsRouted ∧ ∃ q, x.outbound = some q ∧ x.Addresses q
  | responseMapping => x.IsRouted ∧ ∃ answer, x.backendResponse = some answer
  | cacheStore | release => x.IsRouted ∧ ∃ response, x.response = some response

/-- What is needed of an exchange with some stages ahead; at the end it is a response. -/
def Exchange.IsReadyFor (x : Exchange) : List Stage → Prop
  | [] => ∃ response, x.response = some response
  | stage :: _ => stage.Needs x

/-- If a cause is that something is missing, it was told from outside the gateway. -/
def GatewayError.OnlyTold (Told : GatewayError → Prop) (e : GatewayError) : Prop :=
  e.IsBookkeeping → Told e

/-- What comes of a stage that has what it needs, when others are left. -/
inductive Passage.Orderly (Told : GatewayError → Prop) (rest : List Stage) : Passage → Prop
  | proceeds {g : Gateway} {x : Exchange} :
      x.InOrder →
      x.IsReadyFor rest →
      Orderly Told rest (proceed g x)
  | responds {g : Gateway} {x : Exchange} {response : Response} :
      x.InOrder →
      x.response = some response →
      Orderly Told rest ⟨g, x, .respond⟩
  | refuses {g : Gateway} {x : Exchange} {e : GatewayError} :
      x.InOrder →
      e.OnlyTold Told →
      Orderly Told rest (refuse g x e)
  | awaits {g : Gateway} {x : Exchange} {c : BackendCall} {later : List Stage} :
      x.InOrder →
      x.IsRouted →
      x.Addresses c.request →
      rest = .responseMapping :: later →
      Orderly Told rest ⟨g, x, .await c⟩

namespace Stage

open Passage (Orderly)

section Orderly

variable {Told : GatewayError → Prop}
variable {s : Surroundings}
variable {g : Gateway}
variable {x : Exchange}
variable {rest : List Stage}

/-- A refusal that is foreseen is in order. -/
theorem orderly_refuse
    {α : Type}
    {r : Except GatewayError α}
    {e : GatewayError}
    (hx : x.InOrder)
    (h : Foreseen r)
    (he : r = .error e) :
    Orderly Told rest (.refuse g x e) :=
  .refuses hx fun hbook => absurd hbook (h e he)

theorem orderly_resolveRoute (hx : x.InOrder) :
    Orderly Told (.rateLimit :: rest) (resolveRoute g x) := by
  rcases resolveRoute_cases g x with ⟨e, hresolve, h⟩ | ⟨r, hresolve, h⟩ <;> rw [h]
  · exact orderly_refuse hx (g.table.foreseen_resolve _ _) hresolve
  · exact .proceeds hx ⟨r, rfl, RouteTable.substitute_of_resolve hresolve⟩

theorem orderly_limitRate
    (hx : x.InOrder)
    (hrouted : x.IsRouted) :
    Orderly Told (.authentication :: rest) (limitRate s g x) := by
  rcases limitRate_cases s g x with
    ⟨hnone, _⟩ | ⟨r, _, _, h⟩ | ⟨r, p, l, d, _, _, _, _, ⟨_, h⟩ | ⟨_, h⟩⟩
  · exact absurd hnone hrouted.resolved_ne_none
  · rw [h]
    exact .proceeds hx hrouted
  · rw [h]
    exact .proceeds ⟨hx.1, d.within_headers p s.wallClock⟩ hrouted
  · rw [h]
    exact .refuses ⟨hx.1, d.within_headers p s.wallClock⟩ nofun

theorem orderly_authenticate
    (hx : x.InOrder)
    (hrouted : x.IsRouted)
    (htold : ∀ found policy e,
      x.resolved = some found →
      found.route.authentication = some policy →
      s.identify policy x.request.headers = .error e →
      Told e) :
    Orderly Told (.authorisation :: rest) (authenticate s g x) := by
  rcases authenticate_cases s g x with
    ⟨hnone, _⟩ | ⟨r, _, _, h⟩ | ⟨r, p, claims, _, _, _, h⟩ | ⟨r, p, e, hr, hp, he, h⟩
  · exact absurd hnone hrouted.resolved_ne_none
  · rw [h]
    exact .proceeds hx hrouted
  · rw [h]
    exact .proceeds hx hrouted
  · rw [h]
    exact .refuses hx fun _ => htold r p e hr hp he

theorem orderly_authorise
    (hx : x.InOrder)
    (hrouted : x.IsRouted) :
    Orderly Told (.cacheLookup :: rest) (authorise g x) := by
  rcases authorise_cases g x with
    ⟨hnone, _⟩ | ⟨r, _, _, h⟩ | ⟨r, p, _, _, _, h⟩ | ⟨r, p, claims, _, _, _, _, h⟩ |
      ⟨r, p, claims, e, _, _, _, he, h⟩
  · exact absurd hnone hrouted.resolved_ne_none
  · rw [h]
    exact .proceeds hx hrouted
  · rw [h]
    exact .refuses hx nofun
  · rw [h]
    exact .proceeds hx hrouted
  · rw [h]
    exact orderly_refuse hx (claims.foreseen_authorise _ _) he

theorem orderly_lookUp
    (hx : x.InOrder)
    (hrouted : x.IsRouted) :
    Orderly Told (.requestConstruction :: rest) (lookUp s g x) := by
  rcases lookUp_cases s g x with
    ⟨hnone, _⟩ | ⟨r, _, _, h⟩ | ⟨r, p, e, hr, _, _, he, h⟩ | ⟨r, p, key, hit, _, _, _, _, _, h⟩ |
      ⟨r, p, key, _, _, _, _, _, h⟩
  · exact absurd hnone hrouted.resolved_ne_none
  · rw [h]
    exact .proceeds hx hrouted
  · rw [h]
    exact orderly_refuse hx (Exchange.foreseen_cacheKeyOf hr p) he
  · rw [h]
    exact .responds hx rfl
  · rw [h]
    exact .proceeds hx hrouted

theorem orderly_construct
    (hx : x.InOrder)
    (hrouted : x.IsRouted) :
    Orderly Told (.lease :: rest) (pass s .requestConstruction g x) := by
  obtain ⟨found, hfound, hpath⟩ := hrouted
  rcases construct_cases s g x with ⟨q, hq, h⟩ | ⟨e, he, h⟩ <;> rw [h]
  · exact .proceeds hx ⟨⟨found, hfound, hpath⟩, q, rfl, hq⟩
  · exact orderly_refuse hx (Exchange.foreseen_buildOutbound hfound) he

/-- Whatever was taken on lease, the request is there to be addressed to it. -/
theorem orderly_useLease
    {found : ResolvedRoute}
    {taken : Gateway × Except GatewayError Lease}
    (hx : x.InOrder)
    (hneeds : Stage.lease.Needs x)
    (hfound : x.resolved = some found)
    (htaken : Foreseen taken.2) :
    Orderly Told (.backendCall :: rest) (useLease x found.route taken) := by
  obtain ⟨hrouted, built, hbuilt, hbuild⟩ := hneeds
  obtain ⟨g', result⟩ := taken
  cases result with
  | error e => exact orderly_refuse hx htaken rfl
  | ok l =>
      unfold useLease address
      rw [hbuilt]
      dsimp only
      cases hsend : built.sendTo found.route.downstreamScheme l.service.endpoint with
      | error e => exact orderly_refuse hx (built.foreseen_sendTo _ _) hsend
      | ok q => exact .proceeds hx ⟨hrouted, q, rfl, found, l, built, hfound, rfl, hbuild, hsend⟩

/-- A stage that needs the route is given it. -/
theorem onRoute_of_resolved
    {found : ResolvedRoute}
    (hfound : x.resolved = some found)
    (stage : ResolvedRoute → Passage) :
    Passage.onRoute g x stage = stage found := by
  unfold Passage.onRoute
  rw [Exchange.route_eq_ok_iff.2 hfound]

theorem orderly_takeLease
    (hx : x.InOrder)
    (hneeds : Stage.lease.Needs x) :
    Orderly Told (.backendCall :: rest) (takeLease s g x) := by
  have hrouted := hneeds.1
  obtain ⟨found, hfound, _⟩ := hrouted
  unfold takeLease
  rw [onRoute_of_resolved hfound]
  exact orderly_useLease hx hneeds hfound (g.foreseen_takeLease s found.route)

theorem orderly_endLease
    (hx : x.InOrder)
    (hneeds : Stage.lease.Needs x)
    (p : PendingLease) :
    Orderly Told (.backendCall :: rest) (endLease s g x p) := by
  have hrouted := hneeds.1
  obtain ⟨found, hfound, _⟩ := hrouted
  unfold endLease
  rw [onRoute_of_resolved hfound]
  exact orderly_useLease hx hneeds hfound (g.foreseen_endLease s p)

theorem orderly_beginCall
    (hx : x.InOrder)
    (hneeds : Stage.backendCall.Needs x) :
    Orderly Told (.responseMapping :: rest) (beginCall s g x) := by
  obtain ⟨hrouted, q, hq, found, l, built, hfound, hl, hbuild, hsend⟩ := hneeds
  unfold beginCall
  rw [onRoute_of_resolved hfound, hl, hq]
  dsimp only
  split
  · rename_i breakers e henter
    exact orderly_refuse hx (Qos.foreseen_enter g.breakers found.route.qos _ s.now)
      (congrArg Prod.snd henter)
  · exact .awaits hx hrouted ⟨found, l, built, hfound, rfl, hbuild, hsend⟩ rfl

theorem orderly_mapResponse
    (hx : x.InOrder)
    (hneeds : Stage.responseMapping.Needs x) :
    Orderly Told (.cacheStore :: rest) (mapResponse g x) := by
  obtain ⟨hrouted, answer, hanswer⟩ := hneeds
  unfold mapResponse
  rw [hanswer]
  exact .proceeds hx ⟨hrouted, _, rfl⟩

theorem orderly_store
    (hx : x.InOrder)
    (hneeds : Stage.cacheStore.Needs x) :
    Orderly Told (.release :: rest) (store s g x) := by
  have hrouted := hneeds.1
  rcases store_cases s g x with ⟨hnone, _⟩ | ⟨r, _, h⟩ | ⟨r, p, key, response, _, _, _, _, _, h⟩
  · exact absurd hnone hrouted.resolved_ne_none
  · rw [h]
    exact .proceeds hx hneeds
  · rw [h]
    exact .proceeds hx hneeds

/-- A stage that has what it needs leaves what the next one needs. -/
theorem orderly_pass
    {stage : Stage}
    {p : Passage}
    (hsuffix : stage :: rest <:+ standard)
    (hx : x.InOrder)
    (hneeds : stage.Needs x)
    (hp : stage.Passes s g x p)
    (htold : ∀ found policy e,
      stage = .authentication →
      x.resolved = some found →
      found.route.authentication = some policy →
      s.identify policy x.request.headers = .error e →
      Told e) :
    Orderly Told rest p := by
  -- Each stage has its place, so the stage tells what is left behind it.
  cases hp with
  | late p =>
      rw [rest_eq_of_suffix hsuffix (List.drop_suffix 6 standard)]
      exact orderly_endLease hx hneeds p
  | whole =>
      cases stage with
      | routeResolution =>
          rw [rest_eq_of_suffix hsuffix (List.drop_suffix 0 standard)]
          exact orderly_resolveRoute hx
      | rateLimit =>
          rw [rest_eq_of_suffix hsuffix (List.drop_suffix 1 standard)]
          exact orderly_limitRate hx hneeds
      | authentication =>
          rw [rest_eq_of_suffix hsuffix (List.drop_suffix 2 standard)]
          exact orderly_authenticate hx hneeds fun found policy e => htold found policy e rfl
      | authorisation =>
          rw [rest_eq_of_suffix hsuffix (List.drop_suffix 3 standard)]
          exact orderly_authorise hx hneeds
      | cacheLookup =>
          rw [rest_eq_of_suffix hsuffix (List.drop_suffix 4 standard)]
          exact orderly_lookUp hx hneeds
      | requestConstruction =>
          rw [rest_eq_of_suffix hsuffix (List.drop_suffix 5 standard)]
          exact orderly_construct hx hneeds
      | lease =>
          rw [rest_eq_of_suffix hsuffix (List.drop_suffix 6 standard)]
          exact orderly_takeLease hx hneeds
      | backendCall =>
          rw [rest_eq_of_suffix hsuffix (List.drop_suffix 7 standard)]
          exact orderly_beginCall hx hneeds
      | responseMapping =>
          rw [rest_eq_of_suffix hsuffix (List.drop_suffix 8 standard)]
          exact orderly_mapResponse hx hneeds
      | cacheStore =>
          rw [rest_eq_of_suffix hsuffix (List.drop_suffix 9 standard)]
          exact orderly_store hx hneeds
      | release =>
          rw [rest_eq_of_suffix hsuffix (List.drop_suffix 10 standard)]
          exact .proceeds hx hneeds.2

end Orderly

end Stage

namespace Run

/-- At an event, a run gets a cause for refusal from outside the gateway. -/
inductive Hears : Run → Event → GatewayError → Prop
  /-- The authenticator does not vouch for the caller. -/
  | identity
      {x : Exchange}
      {rest : List Stage}
      {s : Surroundings}
      {found : ResolvedRoute}
      {policy : AuthenticationPolicy}
      {e : GatewayError} :
      x.resolved = some found →
      found.route.authentication = some policy →
      s.identify policy x.request.headers = .error e →
      Hears ⟨x, .passing (.authentication :: rest)⟩ (.pass s) e
  /-- The call of the backend fails on its way. -/
  | backend
      (x : Exchange)
      (c : BackendCall)
      (rest : List Stage)
      (now : Instant)
      (e : GatewayError) :
      Hears ⟨x, .calling c rest⟩ (.answer now (.error e)) e

/-- A run that misses nothing, where some causes for refusal came from outside. -/
inductive Equipped (Told : GatewayError → Prop) : Run → Prop
  | passing {x : Exchange} {rest : List Stage} :
      rest <:+ Stage.standard →
      x.InOrder →
      x.IsReadyFor rest →
      Equipped Told ⟨x, .passing rest⟩
  | calling {x : Exchange} {c : BackendCall} {rest : List Stage} :
      .responseMapping :: rest <:+ Stage.standard →
      x.InOrder →
      x.IsRouted →
      x.Addresses c.request →
      Equipped Told ⟨x, .calling c (.responseMapping :: rest)⟩
  | served {x : Exchange} {response : Response} :
      x.InOrder →
      x.response = some response →
      Equipped Told ⟨{ x with lease := none }, .ended (x.decorate response)⟩
  | refused {x : Exchange} {e : GatewayError} :
      x.InOrder →
      e.OnlyTold Told →
      Equipped Told ⟨{ x.refuse e with lease := none }, .ended (x.decorate (.ofError e))⟩

variable {Told : GatewayError → Prop}

theorem Equipped.mono
    {Told' : GatewayError → Prop}
    {r : Run}
    (h : r.Equipped Told)
    (htold : ∀ e, Told e → Told' e) :
    r.Equipped Told' := by
  cases h with
  | passing hrest hx hready => exact .passing hrest hx hready
  | calling hrest hx hrouted haddresses => exact .calling hrest hx hrouted haddresses
  | served hx hresponse => exact .served hx hresponse
  | refused hx honly => exact .refused hx fun hbook => htold _ (honly hbook)

section Moves

variable {g : Gateway}
variable {x : Exchange}

theorem equipped_start
    (request : Request)
    (peer : SocketAddress)
    (requestId : String)
    (now : Instant) :
    (Run.start request peer requestId now).Equipped Told :=
  .passing (List.suffix_refl _) ⟨rfl, Headers.within_empty _⟩ trivial

/-- A run ends with the response that was found. -/
theorem equipped_close
    {response : Response}
    (now : Instant)
    (hx : x.InOrder)
    (hresponse : x.response = some response) :
    (close now g x).2.Equipped Told := by
  have houtcome : x.outcome = response := by
    unfold Exchange.outcome Exchange.isRefused
    rw [hx.1, hresponse]
    rfl
  unfold close
  rw [houtcome]
  exact .served hx hresponse

/-- A run ends with the one refusal that there is. -/
theorem equipped_close_refuse
    {e : GatewayError}
    (now : Instant)
    (hx : x.InOrder)
    (honly : e.OnlyTold Told) :
    (close now g (x.refuse e)).2.Equipped Told := by
  have houtcome : (x.refuse e).outcome = .ofError e := by
    unfold Exchange.outcome Exchange.isRefused Exchange.refuse
    rw [hx.1]
    rfl
  unfold close
  rw [houtcome]
  exact .refused hx honly

theorem equipped_after
    {now : Instant}
    {rest : List Stage}
    {p : Passage}
    (hrest : rest <:+ Stage.standard)
    (hp : p.Orderly Told rest) :
    (after now rest p).2.Equipped Told := by
  cases hp with
  | proceeds hx hready => exact .passing hrest hx hready
  | responds hx hresponse => exact equipped_close now hx hresponse
  | refuses hx honly => exact equipped_close_refuse now hx honly
  | awaits hx hrouted haddresses hmapping =>
      subst hmapping
      exact .calling hrest hx hrouted haddresses

/-- Whatever an event makes of a run that misses nothing misses nothing. -/
theorem Moves.equipped
    {r : Run}
    {e : Event}
    {next : Gateway × Run}
    (h : r.Moves g e next)
    (hr : r.Equipped Told)
    (htold : ∀ cause, r.Hears e cause → Told cause) :
    next.2.Equipped Told := by
  cases h with
  | stays => exact hr
  | finishes x s =>
      cases hr with
      | passing _ hx hready =>
          obtain ⟨response, hresponse⟩ := hready
          exact equipped_close s.now hx hresponse
  | @passes x stage rest s p hp =>
      cases hr with
      | passing hrest hx hneeds =>
          refine equipped_after ((List.suffix_cons _ _).trans hrest)
            (Stage.orderly_pass hrest hx hneeds hp ?_)
          rintro found policy cause rfl hfound hpolicy hcause
          exact htold cause (.identity hfound hpolicy hcause)
  | answered x c rest now a =>
      cases hr with
      | calling hrest hx hrouted haddresses =>
          cases a with
          | ok answer => exact .passing hrest hx ⟨hrouted, answer, rfl⟩
          | error cause => exact equipped_close_refuse now hx fun _ => htold cause (.backend ..)
  | expired x c rest now =>
      cases hr with
      | calling hrest hx hrouted haddresses => exact equipped_close_refuse now hx nofun

end Moves

end Run
end ApiGateway
