import ApiGateway.Proofs.Run.History

/-!
# What a run finds out

On its way a run finds out its route, its caller and its answer. Each of these is found out by one
stage or two, and all other stages leave it alone (`Stage.FindingFrame`). `Run.Moves` lists what an
event can make of a run.
-/

namespace ApiGateway

/-- What a run has found out, beside its dealings with backends and its identifier. -/
structure Exchange.Findings where
  request : Request
  resolved : Option ResolvedRoute
  advice : Headers
  claims : Option Claims
  cacheKey : Option String
  backendResponse : Option Response
  response : Option Response
  servedFromCache : Bool
  errors : List GatewayError

/-- What a run has found out. -/
def Exchange.findings (x : Exchange) : Findings :=
  ⟨x.request, x.resolved, x.advice, x.claims, x.cacheKey, x.backendResponse, x.response,
    x.servedFromCache, x.errors⟩

/-- What the answer to a request depends on: the request itself, its route and its caller. -/
def Exchange.inquiry (x : Exchange) : Request × Option ResolvedRoute × Option Claims :=
  (x.request, x.resolved, x.claims)

theorem Exchange.inquiry_eq_iff
    {x y : Exchange} :
    y.inquiry = x.inquiry ↔
      y.request = x.request ∧ y.resolved = x.resolved ∧ y.claims = x.claims := by
  rw [inquiry, inquiry, Prod.mk.injEq, Prod.mk.injEq]

theorem Exchange.callerClaims_congr
    {x y : Exchange}
    (h : y.inquiry = x.inquiry) :
    y.callerClaims = x.callerClaims := by
  rw [callerClaims, callerClaims, (inquiry_eq_iff.1 h).2.2]

/-- A passage after which the run has not ended. -/
def Passage.GoesOn (p : Passage) : Prop :=
  p.verdict = .proceed ∨ ∃ c, p.verdict = .await c

theorem Passage.not_goesOn_refuse
    {g : Gateway}
    {x : Exchange}
    {e : GatewayError} :
    ¬ (Passage.refuse g x e).GoesOn := by
  rintro (h | ⟨c, h⟩) <;> cases h

namespace Stage

/-- A stage is passed at once, or a lease is taken when the registry has answered. -/
inductive Passes (s : Surroundings) (g : Gateway) (x : Exchange) : Stage → Passage → Prop
  | whole (stage : Stage) :
      Passes s g x stage (stage.pass s g x)
  | late (p : PendingLease) :
      Passes s g x .lease (endLease s g x p)

/-- No stage comes twice, so each has its place. -/
theorem rest_eq_of_suffix
    {stage : Stage}
    {rest rest' : List Stage}
    (h : stage :: rest <:+ standard)
    (h' : stage :: rest' <:+ standard) :
    rest = rest' := by
  have hnodup : standard.Nodup := by decide
  have hfresh : ∀ {front : List Stage}, stage :: front <:+ standard → stage ∉ front :=
    fun hfront => (List.nodup_cons.1 (hnodup.sublist hfront.sublist)).1
  rcases List.suffix_or_suffix_of_suffix h h' with hsuffix | hsuffix <;>
    rcases List.suffix_cons_iff.1 hsuffix with heq | hlater
  · exact (List.cons.inj heq).2
  · exact absurd (hlater.mem List.mem_cons_self) (hfresh h')
  · exact (List.cons.inj heq).2.symm
  · exact absurd (hlater.mem List.mem_cons_self) (hfresh h)

/-- What a stage leaves of what was found out, whatever comes of it. -/
structure FindingFrame (stage : Stage) (x : Exchange) (p : Passage) : Prop where
  /-- A stage that refuses a request leaves it to the run to take note of this. -/
  errors : p.exchange.errors = x.errors
  inquiry : stage ∉ [routeResolution, authentication] → p.exchange.inquiry = x.inquiry
  advice : stage ≠ .rateLimit → p.exchange.advice = x.advice
  cacheKey : stage ≠ .cacheLookup → p.exchange.cacheKey = x.cacheKey
  servedFromCache : stage ≠ .cacheLookup → p.exchange.servedFromCache = x.servedFromCache
  backendResponse : stage ≠ .responseMapping → p.exchange.backendResponse = x.backendResponse
  response : stage ∉ [cacheLookup, responseMapping] → p.exchange.response = x.response
  responds : stage ≠ .cacheLookup → p.verdict ≠ .respond

theorem FindingFrame.of_findings
    {stage : Stage}
    {x : Exchange}
    {p : Passage}
    (h : p.exchange.findings = x.findings)
    (hverdict : p.verdict ≠ .respond) :
    FindingFrame stage x p where
  errors := congrArg Exchange.Findings.errors h
  inquiry _ := congrArg (fun f : Exchange.Findings => (f.request, f.resolved, f.claims)) h
  advice _ := congrArg Exchange.Findings.advice h
  cacheKey _ := congrArg Exchange.Findings.cacheKey h
  servedFromCache _ := congrArg Exchange.Findings.servedFromCache h
  backendResponse _ := congrArg Exchange.Findings.backendResponse h
  response _ := congrArg Exchange.Findings.response h
  responds _ := hverdict

section Frame

variable (s : Surroundings)
variable (g : Gateway)
variable (x : Exchange)

theorem findingFrame_resolveRoute : FindingFrame .routeResolution x (resolveRoute g x) := by
  rcases resolveRoute_cases g x with ⟨e, _, h⟩ | ⟨r, _, h⟩ <;> rw [h]
  · exact .of_findings rfl nofun
  · exact ⟨rfl, fun hne => absurd (by decide) hne, fun _ => rfl, fun _ => rfl, fun _ => rfl,
      fun _ => rfl, fun _ => rfl, nofun⟩

theorem findingFrame_authenticate : FindingFrame .authentication x (authenticate s g x) := by
  rcases authenticate_cases s g x with
    ⟨_, h⟩ | ⟨r, _, _, h⟩ | ⟨r, p, claims, _, _, _, h⟩ | ⟨r, p, e, _, _, _, h⟩ <;>
    rw [h]
  · exact .of_findings rfl nofun
  · exact .of_findings rfl nofun
  · exact ⟨rfl, fun hne => absurd (by decide) hne, fun _ => rfl, fun _ => rfl, fun _ => rfl,
      fun _ => rfl, fun _ => rfl, nofun⟩
  · exact .of_findings rfl nofun

theorem findingFrame_lookUp : FindingFrame .cacheLookup x (lookUp s g x) := by
  rcases lookUp_cases s g x with
    ⟨_, h⟩ | ⟨r, _, _, h⟩ | ⟨r, p, e, _, _, _, _, h⟩ | ⟨r, p, key, hit, _, _, _, _, _, h⟩ |
      ⟨r, p, key, _, _, _, _, _, h⟩ <;>
    rw [h] <;>
    exact ⟨rfl, fun _ => rfl, fun _ => rfl, fun hne => absurd rfl hne, fun hne => absurd rfl hne,
      fun _ => rfl, fun hne => absurd (by decide) hne, fun hne => absurd rfl hne⟩

theorem findingFrame_mapResponse : FindingFrame .responseMapping x (mapResponse g x) := by
  rcases mapResponse_cases g x with ⟨e, h⟩ | ⟨r, _, h⟩ <;> rw [h]
  · exact .of_findings rfl nofun
  · exact ⟨rfl, fun _ => rfl, fun _ => rfl, fun _ => rfl, fun _ => rfl, fun hne => absurd rfl hne,
      fun hne => absurd (by decide) hne, nofun⟩

theorem findingFrame_useLease
    (r : Route)
    (taken : Gateway × Except GatewayError Lease) :
    FindingFrame .lease x (useLease x r taken) := by
  obtain ⟨g', result⟩ := taken
  cases result with
  | error e => exact .of_findings rfl nofun
  | ok l =>
      unfold useLease
      rcases address_cases (g'.countLease r.key l.service.endpoint) x r l with
        ⟨e, h⟩ | ⟨q₀, q, _, _, h⟩ <;>
        simp only [h] <;>
        exact .of_findings rfl nofun

theorem findingFrame_takeLease : FindingFrame .lease x (takeLease s g x) := by
  unfold takeLease
  rcases onRoute_cases g x _ with ⟨_, h⟩ | ⟨r, _, h⟩ <;> rw [h]
  · exact .of_findings rfl nofun
  · exact findingFrame_useLease x r.route _

theorem findingFrame_endLease (p : PendingLease) : FindingFrame .lease x (endLease s g x p) := by
  unfold endLease
  rcases onRoute_cases g x _ with ⟨_, h⟩ | ⟨r, _, h⟩ <;> rw [h]
  · exact .of_findings rfl nofun
  · exact findingFrame_useLease x r.route _

theorem findingFrame_limitRate : FindingFrame .rateLimit x (limitRate s g x) := by
  rcases limitRate_cases s g x with
    ⟨_, h⟩ | ⟨r, _, _, h⟩ | ⟨r, p, l, d, _, _, _, _, ⟨_, h⟩ | ⟨_, h⟩⟩ <;>
    rw [h] <;>
    exact ⟨rfl, fun _ => rfl, fun hne => absurd rfl hne, fun _ => rfl, fun _ => rfl, fun _ => rfl,
      fun _ => rfl, nofun⟩

theorem findingFrame_authorise : FindingFrame .authorisation x (authorise g x) := by
  rcases authorise_cases g x with
    ⟨_, h⟩ | ⟨r, _, _, h⟩ | ⟨r, p, _, _, _, h⟩ | ⟨r, p, claims, _, _, _, _, h⟩ |
      ⟨r, p, claims, e, _, _, _, _, h⟩ <;>
    rw [h] <;> exact .of_findings rfl nofun

theorem findingFrame_construct :
    FindingFrame .requestConstruction x (pass s .requestConstruction g x) := by
  rcases construct_cases s g x with ⟨q, _, h⟩ | ⟨e, _, h⟩ <;> rw [h] <;>
    exact .of_findings rfl nofun

theorem findingFrame_beginCall : FindingFrame .backendCall x (beginCall s g x) := by
  rcases beginCall_cases s g x with
    ⟨e, h⟩ | ⟨r, l, q, breakers, metrics, e, _, _, _, h⟩ |
      ⟨r, l, q, scope, breakers, guard, _, _, _, _, h⟩ <;>
    rw [h] <;> exact .of_findings rfl nofun

theorem findingFrame_store : FindingFrame .cacheStore x (store s g x) := by
  rcases store_cases s g x with
    ⟨_, h⟩ | ⟨r, _, h⟩ | ⟨r, p, key, response, _, _, _, _, _, h⟩ <;>
    rw [h] <;> exact .of_findings rfl nofun

/-- Every stage keeps to its frame. -/
theorem findingFrame_pass (stage : Stage) : FindingFrame stage x (stage.pass s g x) := by
  cases stage with
  | routeResolution => exact findingFrame_resolveRoute g x
  | rateLimit => exact findingFrame_limitRate s g x
  | authentication => exact findingFrame_authenticate s g x
  | authorisation => exact findingFrame_authorise g x
  | cacheLookup => exact findingFrame_lookUp s g x
  | requestConstruction => exact findingFrame_construct s g x
  | lease => exact findingFrame_takeLease s g x
  | backendCall => exact findingFrame_beginCall s g x
  | responseMapping => exact findingFrame_mapResponse g x
  | cacheStore => exact findingFrame_store s g x
  | release => exact .of_findings rfl nofun

end Frame

section Passing

variable {s : Surroundings}
variable {g : Gateway}
variable {x : Exchange}
variable {stage : Stage}
variable {p : Passage}

/-- It keeps to its frame whether or not the registry was asked for a lease. -/
theorem Passes.frame
    (h : Passes s g x stage p) :
    FindingFrame stage x p := by
  cases h with
  | whole => exact findingFrame_pass s g x stage
  | late p => exact findingFrame_endLease s g x p

/-- Only the stage that takes a lease may have to wait for the registry. -/
theorem Passes.eq_pass
    (h : Passes s g x stage p)
    (hstage : stage ≠ .lease) :
    p = stage.pass s g x := by
  cases h with
  | whole => rfl
  | late => exact absurd rfl hstage

/-- Once a stage is passed that comes after the caller is known, what was asked for stays. -/
theorem Passes.inquiry_of_past
    {rest : List Stage}
    {mark : Stage}
    (h : Passes s g x stage p)
    (hsuffix : stage :: rest <:+ standard)
    (hmark : mark ∈ standard.drop 3)
    (hpast : mark ∉ rest) :
    p.exchange.inquiry = x.inquiry := by
  refine h.frame.inquiry ?_
  simp only [List.mem_cons, List.not_mem_nil, or_false]
  rintro (rfl | rfl)
  · rw [rest_eq_of_suffix hsuffix (List.suffix_refl _)] at hpast
    exact hpast ((List.drop_suffix 2 standard.tail).mem hmark)
  · rw [rest_eq_of_suffix hsuffix (List.drop_suffix 2 standard)] at hpast
    exact hpast hmark

end Passing

end Stage

namespace Run

/-- What an event can make of a run and the gateway that it meets. -/
inductive Moves (g : Gateway) : Run → Event → Gateway × Run → Prop
  /-- The event is not for the run as it is. -/
  | stays (r : Run) (e : Event) :
      Moves g r e (g, r)
  | finishes (x : Exchange) (s : Surroundings) :
      Moves g ⟨x, .passing []⟩ (.pass s) (close s.now g x)
  | passes {x : Exchange} {stage : Stage} {rest : List Stage} {s : Surroundings} {p : Passage} :
      stage.Passes s g x p →
      Moves g ⟨x, .passing (stage :: rest)⟩ (.pass s) (after s.now rest p)
  | answered
      (x : Exchange)
      (c : BackendCall)
      (rest : List Stage)
      (now : Instant)
      (a : Except GatewayError Response) :
      Moves g ⟨x, .calling c rest⟩ (.answer now a) (after now rest (Stage.endCall now g x c a))
  | expired (x : Exchange) (c : BackendCall) (rest : List Stage) (now : Instant) :
      Moves g ⟨x, .calling c rest⟩ (.expire now) (after now rest (Stage.timeOut now g x c))

theorem moves_meet (g : Gateway) (r : Run) (e : Event) : r.Moves g e (r.meet g e) := by
  obtain ⟨x, phase⟩ := r
  cases e with
  | pass s =>
      cases phase with
      | passing rest =>
          cases rest with
          | nil => exact .finishes x s
          | cons stage rest => exact .passes (.whole stage)
      | calling c rest => exact .stays _ _
      | ended response => exact .stays _ _
  | answer now a =>
      cases phase with
      | calling c rest => exact .answered x c rest now a
      | _ => exact .stays _ _
  | expire now =>
      cases phase with
      | calling c rest => exact .expired x c rest now
      | _ => exact .stays _ _

theorem moves_endLease (s : Surroundings) (g : Gateway) (r : Run) (p : PendingLease) :
    r.Moves g (.pass s) (r.endLease s g p) := by
  obtain ⟨x, phase⟩ := r
  unfold endLease
  split
  · rename_i rest hphase
    cases hphase
    exact .passes (.late p)
  · exact .stays _ _

/-- A run and what becomes of it: once it has its route and its caller, or its advice, they stay. -/
structure Later (r r' : Run) : Prop where
  /-- A run does not return to a stage that it has passed. -/
  remaining : r'.remaining <:+ r.remaining
  inquiry :
    .routeResolution ∉ r.remaining →
    .authentication ∉ r.remaining →
    r'.exchange.inquiry = r.exchange.inquiry
  advice : .rateLimit ∉ r.remaining → r'.exchange.advice = r.exchange.advice

theorem Later.refl (r : Run) : r.Later r :=
  ⟨List.suffix_refl _, fun _ _ => rfl, fun _ => rfl⟩

theorem Later.trans
    {r r' r'' : Run}
    (h : r.Later r')
    (h' : r'.Later r'') :
    r.Later r'' := by
  refine ⟨h'.remaining.trans h.remaining, fun hroute hcaller => ?_, fun hlimit => ?_⟩
  · exact (h'.inquiry (fun hmem => hroute (h.remaining.mem hmem))
      (fun hmem => hcaller (h.remaining.mem hmem))).trans (h.inquiry hroute hcaller)
  · exact (h'.advice fun hmem => hlimit (h.remaining.mem hmem)).trans (h.advice hlimit)

/-- What a run has after a passage is what the passage leaves, whether it ends or not. -/
theorem inquiry_after
    (now : Instant)
    (rest : List Stage)
    (p : Passage) :
    (after now rest p).2.exchange.inquiry = p.exchange.inquiry :=
  eq_after (fun _ _ => rfl) (fun _ => rfl) now rest p

theorem advice_after
    (now : Instant)
    (rest : List Stage)
    (p : Passage) :
    (after now rest p).2.exchange.advice = p.exchange.advice :=
  eq_after (fun _ _ => rfl) (fun _ => rfl) now rest p

/-- What a passage leaves behind is what the run goes on with, or ends with. -/
theorem later_after
    {r : Run}
    {now : Instant}
    {rest : List Stage}
    {p : Passage}
    (hrest : rest <:+ r.remaining)
    (hinquiry :
      .routeResolution ∉ r.remaining →
      .authentication ∉ r.remaining →
      p.exchange.inquiry = r.exchange.inquiry)
    (hadvice : .rateLimit ∉ r.remaining → p.exchange.advice = r.exchange.advice) :
    r.Later (after now rest p).2 where
  remaining := (remaining_after now rest p).trans hrest
  inquiry hroute hcaller := (inquiry_after now rest p).trans (hinquiry hroute hcaller)
  advice hlimit := (advice_after now rest p).trans (hadvice hlimit)

theorem Moves.later
    {g : Gateway}
    {r : Run}
    {e : Event}
    {next : Gateway × Run}
    (h : r.Moves g e next) :
    r.Later next.2 := by
  cases h with
  | stays => exact .refl _
  | finishes => exact ⟨List.nil_suffix, fun _ _ => rfl, fun _ => rfl⟩
  | @passes x stage rest s p hp =>
      refine later_after (List.suffix_cons _ _) (fun hroute hcaller => hp.frame.inquiry ?_)
        fun hlimit => hp.frame.advice ?_
      · simp only [List.mem_cons, List.not_mem_nil, or_false]
        rintro (rfl | rfl)
        · exact hroute List.mem_cons_self
        · exact hcaller List.mem_cons_self
      · rintro rfl
        exact hlimit List.mem_cons_self
  | answered x c rest now a =>
      refine later_after (List.suffix_refl _) (fun _ _ => ?_) fun _ => ?_ <;> cases a <;> rfl
  | expired => exact later_after (List.suffix_refl _) (fun _ _ => rfl) fun _ => rfl

end Run
end ApiGateway
