import ApiGateway.Proofs.Exchange.Decoration
import ApiGateway.Proofs.RateLimit.Advice
import ApiGateway.Proofs.Run.Identifiers
import ApiGateway.Proofs.Run.LimiterUse
import ApiGateway.Proofs.Traffic.Runs

/-!
# What responses tell their callers

Whatever a response is, it tells its caller two things more: the identifier of the request, and what
the rate limiter has decided on it. Both belong to the request that is answered. Its identifier is
what its route makes of the one with which it arrived; and a request that has come to a route passes
the limiter once, which tells it then what it will be told (`Limits`).

The proof follows a run from its arrival: nothing is told before the stage of the limiter, and what
is told there stays (`Run.Advised`).

Main statement: `tells_of_run?`.
-/

namespace ApiGateway

/-- What the limiter of a gateway tells an exchange under a name, if it decides on a check of it. -/
def Gateway.advises? (g : Gateway) (s : Surroundings) (x : Exchange) (n : HeaderName) :
    Option HeaderValue := do
  let c ← x.checks? s.now
  let text ← (g.limiter.ask c).2.tells? c.policy s.wallClock n
  HeaderValue.ofText? text

/-- What an exchange is told by the limiter is in its headers after the stage that asks it. -/
theorem Stage.getAll_advice_limitRate
    (s : Surroundings)
    (g : Gateway)
    {x : Exchange}
    (hx : x.advice = {})
    (n : HeaderName) :
    (limitRate s g x).exchange.advice.getAll n = (g.advises? s x n).toList := by
  unfold Gateway.advises?
  rcases limitRate_asks s g x with ⟨hnone, _, h⟩ | ⟨c, hsome, _, h⟩ <;> rw [h]
  · rw [hnone, hx]
    rfl
  · rw [hsome]
    exact RateLimit.Decision.getAll_headers _ c.policy s.wallClock n

namespace Run

/--
What a run has been told by the limiter: nothing until it has passed the stage that asks it, nothing
if it has come to no route, and else what it was told there.
-/
inductive Advised (Told : Headers → Prop) : Run → Prop
  | arrived {x : Exchange} :
      x.resolved = none →
      x.advice = {} →
      Advised Told ⟨x, .passing Stage.standard⟩
  | routed {x : Exchange} :
      x.advice = {} →
      Advised Told ⟨x, .passing (Stage.standard.drop 1)⟩
  | unrouted {x : Exchange} {response : Response} :
      x.resolved = none →
      x.advice = {} →
      Advised Told ⟨x, .ended response⟩
  | limited {r : Run} :
      .rateLimit ∉ r.remaining →
      Told r.exchange.advice →
      Advised Told r

section Advised

variable {Told Told' : Headers → Prop}
variable {g : Gateway}
variable {r : Run}
variable {e : Event}
variable {next : Gateway × Run}

theorem Advised.mono
    (h : r.Advised Told)
    (himp : ∀ advice, Told advice → Told' advice) :
    r.Advised Told' := by
  cases h with
  | arrived hx hadvice => exact .arrived hx hadvice
  | routed hadvice => exact .routed hadvice
  | unrouted hx hadvice => exact .unrouted hx hadvice
  | limited hpast htold => exact .limited hpast (himp _ htold)

/-- Where a route is looked for, the run comes to the limiter with it, or ends without it. -/
theorem advised_resolveRoute
    {x : Exchange}
    (hx : x.resolved = none)
    (hadvice : x.advice = {})
    (now : Instant) :
    (after now (Stage.standard.drop 1) (Stage.resolveRoute g x)).2.Advised Told := by
  rcases Stage.resolveRoute_cases g x with ⟨e, _, h⟩ | ⟨found, _, h⟩ <;> rw [h]
  · exact .unrouted hx hadvice
  · exact .routed hadvice

/-- Whatever an event makes of a run, it has been told what it was told at the stage for it. -/
theorem Moves.advised
    (h : r.Moves g e next)
    (hr : r.Advised Told)
    (hlimit : ∀ x s,
      r = ⟨x, .passing (Stage.standard.drop 1)⟩ →
      e = .pass s →
      x.advice = {} →
      Told (Stage.limitRate s g x).exchange.advice) :
    next.2.Advised Told := by
  have hlater := h.later
  cases hr with
  | arrived hx hadvice =>
      cases h with
      | stays => exact .arrived hx hadvice
      | passes hp =>
          obtain rfl := hp.eq_pass nofun
          exact advised_resolveRoute hx hadvice _
  | @routed x hadvice =>
      cases h with
      | stays => exact .routed hadvice
      | @passes _ _ _ s _ hp =>
          obtain rfl := hp.eq_pass nofun
          have hpast : Stage.rateLimit ∉ Stage.standard.drop 2 := by decide
          refine .limited (fun hmem => hpast ((remaining_after _ _ _).mem hmem)) ?_
          rw [advice_after]
          exact hlimit x s rfl rfl hadvice
  | unrouted hx hadvice =>
      cases h with
      | stays => exact .unrouted hx hadvice
  | limited hpast htold =>
      refine .limited (fun hmem => hpast (hlater.remaining.mem hmem)) ?_
      rw [hlater.advice hpast]
      exact htold

end Advised

end Run

namespace Traffic

/-- A request passes the limiter at an event, with what it is told in headers. -/
def Limits (id : Nat) (advice : Headers) (t : Traffic) (e : Event) : Prop :=
  ∃ s x rest,
    e = .meet id (.pass s) ∧
    t.pending? id = some ⟨x, .passing (.rateLimit :: rest)⟩ ∧
    ∀ n, advice.getAll n = (t.gateway.advises? s x n).toList

/--
What the response of an exchange tells its caller beside what it was before: the identifier that the
route makes of the one with which the request arrived, and what the limiter told it when it passed,
if it has come to a route.
-/
structure Tells
    (g : Gateway)
    (events : List Event)
    (id : Nat)
    (x : Exchange)
    (base response : Response) : Prop extends x.Decorates base response where
  identified : ∃ peer own now,
    .arrive x.request peer own now ∈ events ∧
    x.requestId = x.request.identifier x.resolved own
  limited :
    (x.resolved = none ∧ x.advice = {}) ∨
    (Traffic.new g).Happened events (Limits id x.advice)

section Runs

variable {g : Gateway}
variable {events later : List Event}
variable {id : Nat}
variable {r r' : Run}

/-- What a run has of its arrival it has at all times. -/
theorem exists_bears
    (hr : ((Traffic.new g).after events).run? id = some r)
    (hr' : ((Traffic.new g).after (events ++ later)).run? id = some r') :
    ∃ request peer own now,
      .arrive request peer own now ∈ events ∧
      r.Bears request own ∧
      r'.Bears request own := by
  obtain ⟨before, between, request, peer, own, now, rfl, hstart⟩ := exists_start_of_run? hr
  have hkeeps : ∀ {more r},
      ((Traffic.new g).after (before ++ .arrive request peer own now :: more)).run? id = some r →
      r.Bears request own := by
    intro more r hr
    rw [List.append_cons, after_append] at hr
    exact run_keeps Run.Moves.bears hstart (Run.bears_start request peer own now) hr
  rw [List.append_assoc, List.cons_append] at hr'
  exact ⟨request, peer, own, now, by simp, hkeeps hr, hkeeps hr'⟩

/-- All runs of traffic have been told what they were told when they passed the limiter. -/
theorem advised_of_run?
    (hr : ((Traffic.new g).after events).run? id = some r) :
    r.Advised fun advice => (Traffic.new g).Happened events (Limits id advice) := by
  refine run_invariant
    (P := fun events id r => r.Advised fun advice =>
      (Traffic.new g).Happened events (Limits id advice)) ?_ ?_ ?_ hr
  · exact fun _ _ _ _ _ _ => .arrived rfl rfl
  · exact fun _ _ _ _ h => h.mono fun _ htold => htold.append _
  · intro events id r e next hpending hmoves h
    refine hmoves.advised (h.mono fun _ htold => htold.append _) ?_
    rintro x s rfl rfl hadvice
    exact happened_last ⟨s, x, _, rfl, hpending, Stage.getAll_advice_limitRate s _ hadvice⟩

/-- The response of a run tells its caller what belongs to its request, and nothing else. -/
theorem tells_of_run?
    {base response : Response}
    (hr : ((Traffic.new g).after events).run? id = some r)
    (hresponse : r.response? = some response)
    (hbase : response = r.exchange.decorate base) :
    Tells g events id r.exchange base response := by
  have hsame : ((Traffic.new g).after (events ++ [])).run? id = some r := by
    rw [List.append_nil, hr]
  obtain ⟨request, peer, own, now, harrived, hbears, _⟩ := exists_bears hr hsame
  subst hbase
  refine { r.exchange.decorates_decorate base with identified := ?_, limited := ?_ }
  · obtain rfl := hbears.arrived
    exact ⟨peer, own, now, harrived, hbears.requestId⟩
  · cases advised_of_run? hr with
    | arrived => cases hresponse
    | routed => cases hresponse
    | unrouted hnone hadvice => exact .inl ⟨hnone, hadvice⟩
    | limited _ htold => exact .inr htold

end Runs

end Traffic
end ApiGateway
