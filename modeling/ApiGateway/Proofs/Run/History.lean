import ApiGateway.Proofs.Run.Passages

/-!
# The history of one run

A run passes its stages and, where it waits for a backend, the call ends with an answer or because
its time is over. Between two events of a run the gateway may serve others; `among` is the run after
such a history, where every event meets the gateway as others have left it, and `alone` is a run
and its gateway when nobody else is served.

Main statement: `backendCalls_among_le` bounds the calls of the backend by the number of call
stages that the run was given, whatever the others do.
-/

namespace ApiGateway

/-- The requests that were sent to a backend on behalf of an exchange. -/
def Exchange.backendCalls (x : Exchange) : List Request :=
  x.contacts.filterMap fun
    | .backend q => some q
    | .identity _ => none

namespace Exchange

@[simp] theorem backendCalls_contact_identity
    (x : Exchange)
    (p : AuthenticationPolicy) :
    (x.contact (.identity p)).backendCalls = x.backendCalls := by
  simp [backendCalls, contact]

@[simp] theorem backendCalls_contact_backend
    (x : Exchange)
    (q : Request) :
    (x.contact (.backend q)).backendCalls = x.backendCalls ++ [q] := by
  simp [backendCalls, contact]

end Exchange

namespace Stage

/-- Only the stage that calls the backend adds to the calls. -/
theorem backendCalls_pass
    (s : Surroundings)
    {stage : Stage}
    (g : Gateway)
    (x : Exchange)
    (hstage : stage ≠ .backendCall) :
    (stage.pass s g x).exchange.backendCalls = x.backendCalls := by
  cases stage with
  | routeResolution =>
      rcases resolveRoute_cases g x with ⟨e, _, h⟩ | ⟨r, _, h⟩ <;>
        rw [pass, h] <;> rfl
  | rateLimit =>
      rcases limitRate_cases s g x with
        ⟨_, h⟩ | ⟨r, _, _, h⟩ | ⟨r, p, l, d, _, _, _, _, ⟨_, h⟩ | ⟨_, h⟩⟩ <;>
        rw [pass, h] <;> rfl
  | authentication =>
      rcases authenticate_cases s g x with
        ⟨_, h⟩ | ⟨r, _, _, h⟩ | ⟨r, p, claims, _, _, _, h⟩ | ⟨r, p, e, _, _, _, h⟩ <;>
        rw [pass, h]
      · rfl
      · rfl
      · exact x.backendCalls_contact_identity p
      · exact x.backendCalls_contact_identity p
  | authorisation =>
      rcases authorise_cases g x with
        ⟨_, h⟩ | ⟨r, _, _, h⟩ | ⟨r, p, _, _, _, h⟩ | ⟨r, p, claims, _, _, _, _, h⟩ |
          ⟨r, p, claims, e, _, _, _, _, h⟩ <;>
        rw [pass, h] <;> rfl
  | cacheLookup =>
      rcases lookUp_cases s g x with
        ⟨_, h⟩ | ⟨r, _, _, h⟩ | ⟨r, p, e, _, _, _, _, h⟩ | ⟨r, p, key, hit, _, _, _, _, _, h⟩ |
          ⟨r, p, key, _, _, _, _, _, h⟩ <;>
        rw [pass, h] <;> rfl
  | requestConstruction =>
      rcases construct_cases s g x with ⟨q, _, h⟩ | ⟨e, _, h⟩ <;>
        rw [h] <;> rfl
  | lease =>
      rcases takeLease_cases s g x with
        ⟨_, h⟩ | ⟨r, g', e, _, _, h⟩ | ⟨r, g', l, _, _, h⟩ <;>
        rw [pass, h]
      · rfl
      · rfl
      · rcases address_cases (g'.countLease r.route.key l.service.endpoint) x r.route l with
          ⟨e, h⟩ | ⟨q₀, q, _, _, h⟩ <;>
          rw [h] <;> rfl
  | backendCall => exact absurd rfl hstage
  | responseMapping =>
      rcases mapResponse_cases g x with ⟨e, h⟩ | ⟨r, _, h⟩ <;>
        rw [pass, h] <;> rfl
  | cacheStore =>
      rcases store_cases s g x with
        ⟨_, h⟩ | ⟨r, _, h⟩ | ⟨r, p, key, response, _, _, _, _, _, h⟩ <;>
        rw [pass, h] <;> rfl
  | release => rfl

/-- The stage that calls the backend adds one call at most. -/
theorem backendCalls_beginCall_le
    (s : Surroundings)
    (g : Gateway)
    (x : Exchange) :
    (beginCall s g x).exchange.backendCalls.length ≤ x.backendCalls.length + 1 := by
  rcases beginCall_cases s g x with
    ⟨e, h⟩ | ⟨r, l, q, breakers, metrics, e, _, _, _, h⟩ |
      ⟨r, l, q, scope, breakers, guard, _, _, _, _, h⟩ <;>
    rw [h]
  · exact Nat.le_add_right _ _
  · exact Nat.le_add_right _ _
  · rw [Exchange.backendCalls_contact_backend, List.length_append]
    exact Nat.le_refl _

/-- A stage adds as many calls as there are call stages in it. -/
theorem backendCalls_pass_le
    (s : Surroundings)
    (stage : Stage)
    (g : Gateway)
    (x : Exchange) :
    (stage.pass s g x).exchange.backendCalls.length
      ≤ x.backendCalls.length + [stage].count .backendCall := by
  by_cases hstage : stage = .backendCall
  · subst hstage
    exact backendCalls_beginCall_le s g x
  · rw [backendCalls_pass s g x hstage]
    exact Nat.le_add_right _ _

end Stage

namespace Run

/-- What happens to a run on its way. -/
inductive Event
  /-- It passes its next stage. -/
  | pass (surroundings : Surroundings)
  /-- The call that it waits for ends with an answer of the backend or a failure on the way. -/
  | answer (now : Instant) (answer : Except GatewayError Response)
  /-- The time of the call that it waits for is over. -/
  | expire (now : Instant)

/-- The gateway and a run after an event. -/
def meet (g : Gateway) (r : Run) : Event → Gateway × Run
  | .pass s => step s g r
  | .answer now a => r.answer now g a
  | .expire now => r.expire now g

/-- The gateway and a run after events, when nobody else is served. -/
def alone (g : Gateway) (r : Run) : List Event → Gateway × Run
  | [] => (g, r)
  | e :: es => alone (r.meet g e).1 (r.meet g e).2 es

/-- A run after events, each of which meets the gateway as others have left it. -/
def among (r : Run) : List (Gateway × Event) → Run
  | [] => r
  | t :: ts => among (r.meet t.1 t.2).2 ts

/-- A run ends, goes on with the stages that are left, or waits before them. -/
theorem after_cases
    (now : Instant)
    (rest : List Stage)
    (p : Passage) :
    (p.verdict = .proceed ∧
      after now rest p = (p.gateway, ⟨p.exchange, .passing rest⟩)) ∨
    (∃ c,
      p.verdict = .await c ∧
      after now rest p = (p.gateway, ⟨p.exchange, .calling c rest⟩)) ∨
    (p.verdict = .respond ∧ after now rest p = close now p.gateway p.exchange) ∨
    (∃ e,
      p.verdict = .refuse e ∧
      after now rest p = close now p.gateway (p.exchange.refuse e)) := by
  unfold after
  cases p.verdict with
  | proceed => exact Or.inl ⟨rfl, rfl⟩
  | respond => exact Or.inr (Or.inr (Or.inl ⟨rfl, rfl⟩))
  | refuse e => exact Or.inr (Or.inr (Or.inr ⟨e, rfl, rfl⟩))
  | await c => exact Or.inr (Or.inl ⟨c, rfl, rfl⟩)

/--
Whatever depends neither on the refusals of an exchange nor on the lease that it holds is after a
passage what the passage leaves.
-/
theorem eq_after
    {α : Type}
    {f : Exchange → α}
    (hrefuse : ∀ x e, f (x.refuse e) = f x)
    (hlease : ∀ x : Exchange, f { x with lease := none } = f x)
    (now : Instant)
    (rest : List Stage)
    (p : Passage) :
    f (after now rest p).2.exchange = f p.exchange := by
  rcases after_cases now rest p with ⟨_, h⟩ | ⟨c, _, h⟩ | ⟨_, h⟩ | ⟨e, _, h⟩ <;> rw [h]
  · exact hlease p.exchange
  · exact (hlease (p.exchange.refuse e)).trans (hrefuse p.exchange e)

/-- After a passage only stages are left that were left behind it. -/
theorem remaining_after
    (now : Instant)
    (rest : List Stage)
    (p : Passage) :
    (after now rest p).2.remaining <:+ rest := by
  rcases after_cases now rest p with ⟨_, h⟩ | ⟨c, _, h⟩ | ⟨_, h⟩ | ⟨e, _, h⟩ <;> rw [h]
  · exact List.suffix_refl rest
  · exact List.suffix_refl rest
  · exact List.nil_suffix
  · exact List.nil_suffix

/-- What comes after a stage adds no calls and no call stages. -/
theorem backendCalls_after_le
    (now : Instant)
    (rest : List Stage)
    (p : Passage) :
    (after now rest p).2.exchange.backendCalls.length
        + (after now rest p).2.remaining.count .backendCall
      ≤ p.exchange.backendCalls.length + rest.count .backendCall := by
  rcases after_cases now rest p with ⟨_, h⟩ | ⟨c, _, h⟩ | ⟨_, h⟩ | ⟨e, _, h⟩ <;> rw [h]
  · exact Nat.le_refl _
  · exact Nat.le_refl _
  · exact Nat.le_add_right _ _
  · exact Nat.le_add_right _ _

/-- The end of a call adds no calls. -/
theorem backendCalls_endCall
    (now : Instant)
    (g : Gateway)
    (x : Exchange)
    (c : BackendCall)
    (a : Except GatewayError Response) :
    (Stage.endCall now g x c a).exchange.backendCalls = x.backendCalls := by
  cases a <;> rfl

/-- The calls made and the call stages ahead do not become more by an event. -/
theorem backendCalls_meet_le
    (g : Gateway)
    (r : Run)
    (e : Event) :
    (r.meet g e).2.exchange.backendCalls.length
        + (r.meet g e).2.remaining.count .backendCall
      ≤ r.exchange.backendCalls.length + r.remaining.count .backendCall := by
  obtain ⟨x, phase⟩ := r
  cases e with
  | pass s =>
      cases phase with
      | passing rest =>
          cases rest with
          | nil => exact Nat.le_refl _
          | cons stage rest =>
              have hafter := backendCalls_after_le s.now rest (stage.pass s g x)
              have hpass := Stage.backendCalls_pass_le s stage g x
              have hcount :
                  (stage :: rest).count Stage.backendCall
                    = [stage].count .backendCall + rest.count .backendCall := by
                rw [← List.singleton_append, List.count_append]
              simp only [meet, step, remaining] at hafter ⊢
              omega
      | calling c rest => exact Nat.le_refl _
      | ended response => exact Nat.le_refl _
  | answer now a =>
      cases phase with
      | passing rest => exact Nat.le_refl _
      | calling c rest =>
          have hafter := backendCalls_after_le now rest (Stage.endCall now g x c a)
          rw [backendCalls_endCall] at hafter
          exact hafter
      | ended response => exact Nat.le_refl _
  | expire now =>
      cases phase with
      | passing rest => exact Nat.le_refl _
      | calling c rest =>
          have hafter := backendCalls_after_le now rest (Stage.timeOut now g x c)
          unfold Stage.timeOut at hafter
          rw [backendCalls_endCall] at hafter
          exact hafter
      | ended response => exact Nat.le_refl _

/-- The calls made and the call stages ahead do not become more in the course of a history. -/
theorem backendCalls_among_le
    (r : Run)
    (turns : List (Gateway × Event)) :
    (r.among turns).exchange.backendCalls.length
        + (r.among turns).remaining.count .backendCall
      ≤ r.exchange.backendCalls.length + r.remaining.count .backendCall := by
  induction turns generalizing r with
  | nil => exact Nat.le_refl _
  | cons t ts ih => exact Nat.le_trans (ih _) (backendCalls_meet_le t.1 r t.2)

end Run
end ApiGateway
