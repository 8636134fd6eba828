import ApiGateway.Proofs.Run.Findings
import ApiGateway.Proofs.Traffic.Basic
import Mathlib.Data.List.Induction

/-!
# The runs of traffic

Each request of traffic has a run, until it is given up. It starts when the request arrives and then
moves at the events that are for it, and at no other ones; `run_invariant` turns this into an
induction for what holds of all runs, in terms of what has happened so far (`Happened`).

Until it comes to its lease, a run passes its next stage whenever it is its turn, since the registry
is asked for no other run (`run?_meet_pass`); and once it has ended, it stays as it is.
-/

namespace ApiGateway

/-- Whether a run has ended with an answer of the cache or of a backend, and not with a refusal. -/
def Run.isServed (r : Run) : Bool :=
  r.isOver && ! r.exchange.isRefused

namespace Traffic

/-- In the course of events, one of them met the traffic in this way. -/
def Happened (t : Traffic) (events : List Event) (P : Traffic → Event → Prop) : Prop :=
  ∃ before e later, events = before ++ e :: later ∧ P (t.after before) e

section Happening

variable {t : Traffic}
variable {events : List Event}
variable {P : Traffic → Event → Prop}

theorem after_append
    (t : Traffic)
    (before later : List Event) :
    t.after (before ++ later) = (t.after before).after later :=
  List.foldl_append

theorem after_append_singleton
    (t : Traffic)
    (events : List Event)
    (e : Event) :
    t.after (events ++ [e]) = (t.after events).meet e :=
  t.after_append events [e]

/-- What has happened stays so. -/
theorem Happened.append
    (h : t.Happened events P)
    (more : List Event) :
    t.Happened (events ++ more) P := by
  obtain ⟨before, e, later, rfl, he⟩ := h
  exact ⟨before, e, later ++ more, by rw [List.append_assoc, List.cons_append], he⟩

theorem happened_last
    {e : Event}
    (h : P (t.after events) e) :
    t.Happened (events ++ [e]) P :=
  ⟨events, e, [], rfl, h⟩

end Happening

section Runs

variable {t : Traffic}
variable {id : Nat}
variable {r r' : Run}

/-- A request is pending if its run has not ended. -/
theorem pending?_eq_some_iff_run? :
    t.pending? id = some r ↔ t.run? id = some r ∧ r.isOver = false := by
  rw [pending?_eq_run?, Option.filter_eq_some_iff, Bool.not_eq_true']

theorem run?_new (g : Gateway) (id : Nat) : (Traffic.new g).run? id = none :=
  rfl

/-- An event that is for a run moves it, with or without the registry. -/
theorem exists_moves_turn
    (t : Traffic)
    (id : Nat)
    (r : Run)
    (e : Run.Event) :
    ∃ next begun,
      t.turn id r e = { t.put id next with begun } ∧ r.Moves t.gateway e next := by
  have hmeet : ∃ next begun,
      t.put id (r.meet t.gateway e) = { t.put id next with begun } ∧ r.Moves t.gateway e next :=
    ⟨_, _, rfl, Run.moves_meet t.gateway r e⟩
  cases e with
  | pass s =>
      cases hbegun : t.begun id with
      | none =>
          simp only [turn, hbegun]
          exact hmeet
      | some p =>
          simp only [turn, hbegun]
          exact ⟨_, _, rfl, Run.moves_endLease s t.gateway r p⟩
  | answer now a => exact hmeet
  | expire now => exact hmeet

/-- A run was there before an event as it is after it, or it has just started, or it has moved. -/
theorem run?_meet_cases
    {e : Event}
    (h : (t.meet e).run? id = some r') :
    t.run? id = some r' ∨
    (∃ request peer requestId now,
      e = .arrive request peer requestId now ∧
      id = t.runs.length ∧
      r' = .start request peer requestId now) ∨
    (∃ r e' next,
      e = .meet id e' ∧
      t.pending? id = some r ∧
      r.Moves t.gateway e' next ∧
      r' = next.2) := by
  cases e with
  | arrive request peer requestId now =>
      rw [meet, run?_append] at h
      split at h
      · cases h
        exact .inr (.inl ⟨request, peer, requestId, now, rfl, ‹_›, rfl⟩)
      · exact .inl h
  | beginLease other now =>
      refine .inl ?_
      cases hr : t.pending? other with
      | none => simpa only [meet, hr] using h
      | some r =>
          simp only [meet, hr, ask] at h
          split at h <;> exact h
  | meet other e =>
      cases hr : t.pending? other with
      | none => exact .inl (by simpa only [meet, hr] using h)
      | some r =>
          obtain ⟨next, begun, hturn, hmoves⟩ := t.exists_moves_turn other r e
          simp only [meet, hr, hturn, put] at h
          rw [run?_set next.1 (some next.2) begun (lt_of_pending?_eq_some hr)] at h
          split at h
          · rename_i heq
            subst heq
            cases h
            exact .inr (.inr ⟨r, e, next, rfl, hr, hmoves, rfl⟩)
          · exact .inl h
  | abandon other now =>
      refine .inl ?_
      cases hr : t.pending? other with
      | none => simpa only [meet, hr] using h
      | some r =>
          simp only [meet, hr] at h
          rw [run?_set _ none _ (lt_of_pending?_eq_some hr)] at h
          split at h
          · cases h
          · exact h
  | reload config => exact .inl h
  | prepare config => exact .inl h
  | putTable table => exact .inl h
  | putConfig config => exact .inl h
  | resetBalancers directory => exact .inl h
  | clearBreakers => exact .inl h
  | sweep before now => exact .inl h
  | administer exposition method path => exact .inl h

theorem lt_of_run?_eq_some
    (h : t.run? id = some r) :
    id < t.runs.length :=
  (List.getElem?_eq_some_iff.1 (Option.join_eq_some_iff.1 h)).1

/-- Requests keep their places. -/
theorem length_runs_meet (e : Event) : t.runs.length ≤ (t.meet e).runs.length := by
  cases e with
  | arrive request peer requestId now =>
      rw [meet, List.length_append]
      exact Nat.le_add_right _ _
  | beginLease id now =>
      cases hr : t.pending? id with
      | none =>
          simp only [meet, hr]
          exact Nat.le_refl _
      | some r =>
          simp only [meet, hr, ask]
          split <;> exact Nat.le_refl _
  | meet id e =>
      cases hr : t.pending? id with
      | none =>
          simp only [meet, hr]
          exact Nat.le_refl _
      | some r =>
          obtain ⟨next, begun, hturn, _⟩ := t.exists_moves_turn id r e
          simp only [meet, hr, hturn, put, List.length_set]
          exact Nat.le_refl _
  | abandon id now =>
      cases hr : t.pending? id with
      | none =>
          simp only [meet, hr]
          exact Nat.le_refl _
      | some r =>
          simp only [meet, hr, List.length_set]
          exact Nat.le_refl _
  | _ => exact Nat.le_refl _

theorem length_runs_after (events : List Event) : t.runs.length ≤ (t.after events).runs.length := by
  induction events generalizing t with
  | nil => exact Nat.le_refl _
  | cons e es ih => exact Nat.le_trans (length_runs_meet e) ih

/-- Whatever happens, what the moves of a run keep is kept. -/
theorem run_keeps
    {P : Run → Prop}
    (hmove : ∀ {gw : Gateway} {r e next}, r.Moves gw e next → P r → P next.2)
    {events : List Event}
    (hr : t.run? id = some r)
    (h : P r)
    (hr' : (t.after events).run? id = some r') :
    P r' := by
  induction events using List.reverseRecOn generalizing r' with
  | nil =>
      obtain rfl := Option.some.inj (hr.symm.trans hr')
      exact h
  | append_singleton events e ih =>
      rw [after_append_singleton] at hr'
      rcases run?_meet_cases hr' with hold | ⟨_, _, _, _, _, hid, _⟩ |
        ⟨between, e', next, _, hpending, hmoves, rfl⟩
      · exact ih hold
      · -- A place that is taken is not given to a request that arrives.
        have hlen := length_runs_after (t := t) events
        exact absurd (lt_of_run?_eq_some hr) (Nat.not_lt.2 (hid ▸ hlen))
      · exact hmove hmoves (ih (pending?_eq_some_iff_run?.1 hpending).1)

/-- Whatever happens, a run becomes only what its own moves make of it. -/
theorem later_of_after
    {events : List Event}
    (hr : t.run? id = some r)
    (hr' : (t.after events).run? id = some r') :
    r.Later r' :=
  run_keeps (fun hmoves h => h.trans hmoves.later) hr (.refl r) hr'

/-- Every run has started with the arrival of its request. -/
theorem exists_start_of_run?
    {g : Gateway}
    {events : List Event}
    (hr : ((Traffic.new g).after events).run? id = some r) :
    ∃ before later request peer requestId now,
      events = before ++ .arrive request peer requestId now :: later ∧
      ((Traffic.new g).after (before ++ [.arrive request peer requestId now])).run? id =
        some (.start request peer requestId now) := by
  induction events using List.reverseRecOn generalizing r with
  | nil =>
      rw [after, List.foldl_nil, run?_new] at hr
      cases hr
  | append_singleton events e ih =>
      have hearlier : ∀ {r}, ((Traffic.new g).after events).run? id = some r →
          ∃ before later request peer requestId now,
            events ++ [e] = before ++ .arrive request peer requestId now :: later ∧
            ((Traffic.new g).after (before ++ [.arrive request peer requestId now])).run? id =
              some (.start request peer requestId now) := by
        intro r hr
        obtain ⟨before, later, request, peer, requestId, now, rfl, hstart⟩ := ih hr
        exact ⟨before, later ++ [e], request, peer, requestId, now, by simp, hstart⟩
      have hmeet := hr
      rw [after_append_singleton] at hmeet
      rcases run?_meet_cases hmeet with hold | ⟨request, peer, requestId, now, rfl, _, rfl⟩ |
        ⟨r', _, _, _, hpending, _, _⟩
      · exact hearlier hold
      · exact ⟨events, [], request, peer, requestId, now, rfl, hr⟩
      · exact hearlier (pending?_eq_some_iff_run?.1 hpending).1

/-- A run that has ended stays as it is. -/
theorem run?_meet_of_isOver
    (hr : t.run? id = some r)
    (hover : r.isOver = true)
    (e : Event) :
    (t.meet e).run? id = some r := by
  have hother : ∀ {other r'}, t.pending? other = some r' → other ≠ id := by
    rintro other r' hpending rfl
    obtain ⟨hr', hopen⟩ := pending?_eq_some_iff_run?.1 hpending
    obtain rfl := Option.some.inj (hr.symm.trans hr')
    exact Bool.false_ne_true (hopen.symm.trans hover)
  cases e with
  | arrive request peer requestId now =>
      rw [meet, run?_append, if_neg (Nat.ne_of_lt (lt_of_run?_eq_some hr)), hr]
  | beginLease other now =>
      cases hp : t.pending? other with
      | none => simpa only [meet, hp] using hr
      | some r' =>
          simp only [meet, hp, ask]
          split <;> exact hr
  | meet other e =>
      cases hp : t.pending? other with
      | none => simpa only [meet, hp] using hr
      | some r' =>
          obtain ⟨next, begun, hturn, _⟩ := t.exists_moves_turn other r' e
          simp only [meet, hp, hturn, put]
          rw [run?_set next.1 (some next.2) begun (lt_of_pending?_eq_some hp), if_neg (hother hp),
            hr]
  | abandon other now =>
      cases hp : t.pending? other with
      | none => simpa only [meet, hp] using hr
      | some r' =>
          simp only [meet, hp]
          rw [run?_set _ none _ (lt_of_pending?_eq_some hp), if_neg (hother hp), hr]
  | _ => exact hr

theorem run?_after_of_isOver
    (hr : t.run? id = some r)
    (hover : r.isOver = true)
    (events : List Event) :
    (t.after events).run? id = some r := by
  induction events generalizing t with
  | nil => exact hr
  | cons e es ih => exact ih (run?_meet_of_isOver hr hover e)

/-- The registry was asked only for runs that have come to their lease. -/
def AsksForLeases (t : Traffic) : Prop :=
  ∀ id p, t.begun id = some p → ∃ x rest, t.pending? id = some ⟨x, .passing (.lease :: rest)⟩

/-- What does not touch the runs and the leases that are asked for leaves it so. -/
theorem AsksForLeases.congr
    {t' : Traffic}
    (h : t.AsksForLeases)
    (hruns : t'.runs = t.runs)
    (hbegun : t'.begun = t.begun) :
    t'.AsksForLeases := by
  intro id p hp
  rw [hbegun] at hp
  rw [pending?, hruns]
  exact h id p hp

/-- A run for which the registry is asked has come to its lease. -/
theorem asksForLeases_ask
    (h : t.AsksForLeases)
    (hr : t.pending? id = some r)
    (now : Instant) :
    (t.ask id now r).AsksForLeases := by
  unfold ask
  split
  · rename_i gateway p _ hbegin
    intro other p' hp'
    by_cases hother : other = id
    · subst hother
      obtain ⟨x, phase⟩ := r
      unfold Run.beginLease? at hbegin
      split at hbegin
      · rename_i rest hphase
        cases hphase
        exact ⟨x, rest, hr⟩
      · cases hbegin
    · exact h other p' (by simpa [noting, hother] using hp')
  · exact h

/--
The registry is not asked anew when a run meets an event, and a run that passes is done with it.
-/
theorem begun_of_turn
    {e : Run.Event}
    {other : Nat}
    {p : PendingLease}
    (h : (t.turn id r e).begun other = some p) :
    t.begun other = some p ∧ (other = id → ∀ s, e ≠ .pass s) := by
  cases e with
  | pass s =>
      cases hbegun : t.begun id with
      | none =>
          simp only [turn, hbegun, put] at h
          refine ⟨h, ?_⟩
          rintro rfl
          cases hbegun.symm.trans h
      | some p' =>
          simp only [turn, hbegun, noting] at h
          split at h
          · cases h
          · rename_i hother
            exact ⟨h, fun heq => absurd heq hother⟩
  | answer now a => exact ⟨h, fun _ => nofun⟩
  | expire now => exact ⟨h, fun _ => nofun⟩

/-- A run goes on from its lease only when the registry has answered. -/
theorem asksForLeases_turn
    (h : t.AsksForLeases)
    (hr : t.pending? id = some r)
    (e : Run.Event) :
    (t.turn id r e).AsksForLeases := by
  have hplace := lt_of_pending?_eq_some hr
  intro other p hp
  obtain ⟨hbegun, hpass⟩ := begun_of_turn hp
  obtain ⟨x, rest, hx⟩ := h other p hbegun
  refine ⟨x, rest, ?_⟩
  by_cases hother : other = id
  · subst hother
    obtain rfl := Option.some.inj (hr.symm.trans hx)
    have hstays : t.turn other ⟨x, .passing (.lease :: rest)⟩ e =
        t.put other (t.gateway, ⟨x, .passing (.lease :: rest)⟩) := by
      cases e with
      | pass s => exact absurd rfl (hpass rfl s)
      | answer now a => rfl
      | expire now => rfl
    rw [hstays, put, pending?_set _ _ _ hplace, if_pos rfl]
    rfl
  · obtain ⟨next, begun, hturn, _⟩ := t.exists_moves_turn id r e
    rw [hturn, put, pending?_set _ _ _ hplace, if_neg (Ne.symm hother), hx]

theorem asksForLeases_meet
    (h : t.AsksForLeases)
    (e : Event) :
    (t.meet e).AsksForLeases := by
  cases e with
  | arrive request peer requestId now =>
      intro id p hp
      obtain ⟨x, rest, hx⟩ := h id p hp
      refine ⟨x, rest, ?_⟩
      rw [meet, pending?_append _ rfl, if_neg (Nat.ne_of_lt (lt_of_pending?_eq_some hx)), hx]
  | beginLease id now =>
      cases hr : t.pending? id with
      | none => simpa only [meet, hr] using h
      | some r => simpa only [meet, hr] using asksForLeases_ask h hr now
  | meet id e =>
      cases hr : t.pending? id with
      | none => simpa only [meet, hr] using h
      | some r => simpa only [meet, hr] using asksForLeases_turn h hr e
  | abandon id now =>
      cases hr : t.pending? id with
      | none => simpa only [meet, hr] using h
      | some r =>
          simp only [meet, hr]
          intro other p hp
          have hother : other ≠ id := by
            rintro rfl
            simp [noting] at hp
          obtain ⟨x, rest, hx⟩ := h other p (by simpa [noting, hother] using hp)
          refine ⟨x, rest, ?_⟩
          rw [pending?_set _ _ _ (lt_of_pending?_eq_some hr), if_neg (Ne.symm hother), hx]
  | _ => exact h.congr rfl rfl

theorem asksForLeases_after
    (g : Gateway)
    (events : List Event) :
    ((Traffic.new g).after events).AsksForLeases := by
  induction events using List.reverseRecOn with
  | nil => exact nofun
  | append_singleton events e ih =>
      rw [after_append_singleton]
      exact asksForLeases_meet ih e

/-- A run that has not come to its lease passes its next stage. -/
theorem run?_meet_pass
    (h : t.AsksForLeases)
    {x : Exchange}
    {stage : Stage}
    {rest : List Stage}
    (hr : t.run? id = some ⟨x, .passing (stage :: rest)⟩)
    (hstage : stage ≠ .lease)
    (s : Surroundings) :
    (t.meet (.meet id (.pass s))).run? id =
      some (Run.after s.now rest (stage.pass s t.gateway x)).2 := by
  have hpending : t.pending? id = some ⟨x, .passing (stage :: rest)⟩ :=
    pending?_eq_some_iff_run?.2 ⟨hr, rfl⟩
  have hbegun : t.begun id = none := by
    refine Option.eq_none_iff_forall_ne_some.2 fun p hp => ?_
    obtain ⟨y, rest', hy⟩ := h id p hp
    cases hpending.symm.trans hy
    exact hstage rfl
  simp only [meet, hpending, turn, hbegun, put]
  rw [run?_set _ _ _ (lt_of_pending?_eq_some hpending), if_pos rfl]
  rfl

/--
Induction over the events for what holds of all runs: it holds of a run that starts, each move keeps
it, and it does not depend on what else happens.
-/
theorem run_invariant
    {g : Gateway}
    {P : List Event → Nat → Run → Prop}
    (hstart : ∀ events id request peer requestId now,
      P events id (.start request peer requestId now))
    (hkeep : ∀ events e id r, P events id r → P (events ++ [e]) id r)
    (hmove : ∀ events id r e next,
      ((Traffic.new g).after events).pending? id = some r →
      r.Moves ((Traffic.new g).after events).gateway e next →
      P events id r →
      P (events ++ [.meet id e]) id next.2)
    {events : List Event}
    (hr : ((Traffic.new g).after events).run? id = some r) :
    P events id r := by
  induction events using List.reverseRecOn generalizing id r with
  | nil =>
      rw [after, List.foldl_nil, run?_new] at hr
      cases hr
  | append_singleton events e ih =>
      rw [after_append_singleton] at hr
      rcases run?_meet_cases hr with hold | ⟨request, peer, requestId, now, _, _, rfl⟩ |
        ⟨r', e', next, rfl, hpending, hmoves, rfl⟩
      · exact hkeep events e id r (ih hold)
      · exact hstart _ _ _ _ _ _
      · exact hmove events id r' e' next hpending hmoves
          (ih (pending?_eq_some_iff_run?.1 hpending).1)

end Runs

section Tracking

/--
What holds of an exchange between two stages, in terms of the events so far and of the stages ahead,
and what holds of it when it ends without a refusal. Each stage that does not refuse the request
leads from one to the other, and nothing else that happens makes a difference.
-/
structure Tracks
    (g : Gateway)
    (Ahead : List Event → Nat → Exchange → List Stage → Prop)
    (End : List Event → Nat → Exchange → Prop) : Prop where
  start : ∀ events id request peer requestId now,
    Ahead events id { request, peer, requestId, start := now } Stage.standard
  keep : ∀ {events e id x rest}, Ahead events id x rest → Ahead (events ++ [e]) id x rest
  keepEnd : ∀ {events e id x}, End events id x → End (events ++ [e]) id x
  pass : ∀ {events id x stage rest s p},
    ((Traffic.new g).after events).pending? id = some ⟨x, .passing (stage :: rest)⟩ →
    stage :: rest <:+ Stage.standard →
    stage.Passes s ((Traffic.new g).after events).gateway x p →
    p.GoesOn →
    Ahead events id x (stage :: rest) →
    Ahead (events ++ [.meet id (.pass s)]) id p.exchange rest
  answer : ∀ {events id x c rest now a},
    ((Traffic.new g).after events).pending? id = some ⟨x, .calling c rest⟩ →
    Ahead events id x rest →
    Ahead (events ++ [.meet id (.answer now (.ok a))]) id { x with backendResponse := some a } rest
  respond : ∀ {events id x rest s},
    ((Traffic.new g).after events).pending? id = some ⟨x, .passing (.cacheLookup :: rest)⟩ →
    .cacheLookup :: rest <:+ Stage.standard →
    x.errors = [] →
    (Stage.lookUp s ((Traffic.new g).after events).gateway x).verdict = .respond →
    Ahead events id x (.cacheLookup :: rest) →
    End (events ++ [.meet id (.pass s)]) id
      (Stage.lookUp s ((Traffic.new g).after events).gateway x).exchange
  finish : ∀ {events id x e},
    Ahead events id x [] →
    End (events ++ [e]) id x

/-- A run of which the one holds on its way and the other at its end. -/
inductive Tracked
    (Ahead : Exchange → List Stage → Prop)
    (End : Exchange → Prop) : Run → Prop
  | passing {x : Exchange} {rest : List Stage} :
      rest <:+ Stage.standard →
      x.errors = [] →
      Ahead x rest →
      Tracked Ahead End ⟨x, .passing rest⟩
  | calling {x : Exchange} {c : BackendCall} {rest : List Stage} :
      rest <:+ Stage.standard →
      x.errors = [] →
      Ahead x rest →
      Tracked Ahead End ⟨x, .calling c rest⟩
  | ended {x : Exchange} :
      (x.errors = [] → End x) →
      Tracked Ahead End ⟨{ x with lease := none }, .ended (x.decorate x.outcome)⟩

variable {g : Gateway}
variable {Ahead : List Event → Nat → Exchange → List Stage → Prop}
variable {End : List Event → Nat → Exchange → Prop}

/-- A run that goes on after a passage is tracked if this is so when it is not refused. -/
theorem tracked_after
    {Ahead : Exchange → List Stage → Prop}
    {End : Exchange → Prop}
    {now : Instant}
    {rest : List Stage}
    {p : Passage}
    (hrest : rest <:+ Stage.standard)
    (herrors : p.exchange.errors = [])
    (hahead : p.GoesOn → Ahead p.exchange rest)
    (hend : p.verdict = .respond → End p.exchange) :
    Tracked Ahead End (Run.after now rest p).2 := by
  rcases Run.after_cases now rest p with ⟨hv, h⟩ | ⟨c, hv, h⟩ | ⟨hv, h⟩ | ⟨e, hv, h⟩ <;> rw [h]
  · exact .passing hrest herrors (hahead (.inl hv))
  · exact .calling hrest herrors (hahead (.inr ⟨c, hv⟩))
  · exact .ended fun _ => hend hv
  · refine .ended fun hnone => ?_
    exact absurd hnone (List.append_ne_nil_of_right_ne_nil _ nofun)

/-- What is known of a run between two stages. -/
theorem Tracked.of_passing
    {Ahead : Exchange → List Stage → Prop}
    {End : Exchange → Prop}
    {x : Exchange}
    {rest : List Stage}
    (h : Tracked Ahead End ⟨x, .passing rest⟩) :
    rest <:+ Stage.standard ∧ Ahead x rest := by
  cases h with
  | passing horder _ hx => exact ⟨horder, hx⟩

/-- What is known of a run that waits for its backend. -/
theorem Tracked.of_calling
    {Ahead : Exchange → List Stage → Prop}
    {End : Exchange → Prop}
    {x : Exchange}
    {call : BackendCall}
    {rest : List Stage}
    (h : Tracked Ahead End ⟨x, .calling call rest⟩) :
    rest <:+ Stage.standard ∧ Ahead x rest := by
  cases h with
  | calling hrest _ hx => exact ⟨hrest, hx⟩

/-- What is known at the end of a run that was served. -/
theorem Tracked.of_isServed
    {Ahead : Exchange → List Stage → Prop}
    {End : Exchange → Prop}
    {r : Run}
    (h : Tracked Ahead End r)
    (hserved : r.isServed = true) :
    ∃ x,
      r = ⟨{ x with lease := none }, .ended (x.decorate x.outcome)⟩ ∧
      x.errors = [] ∧
      End x := by
  rw [Run.isServed, Bool.and_eq_true, Bool.not_eq_true', Exchange.isRefused, Bool.not_eq_false',
    List.isEmpty_iff] at hserved
  obtain ⟨hover, herrors⟩ := hserved
  cases h with
  | passing => cases hover
  | calling => cases hover
  | ended hend => exact ⟨_, rfl, herrors, hend herrors⟩

/-- All runs of traffic are tracked, whatever happens. -/
theorem Tracks.tracked
    (h : Tracks g Ahead End)
    {events : List Event}
    {id : Nat}
    {r : Run}
    (hr : ((Traffic.new g).after events).run? id = some r) :
    Tracked (Ahead events id) (End events id) r := by
  refine run_invariant (P := fun events id => Tracked (Ahead events id) (End events id))
    ?_ ?_ ?_ hr
  · intro events id request peer requestId now
    exact .passing (List.suffix_refl _) rfl (h.start events id request peer requestId now)
  · intro events e id r hr
    cases hr with
    | passing hrest herrors hx => exact .passing hrest herrors (h.keep hx)
    | calling hrest herrors hx => exact .calling hrest herrors (h.keep hx)
    | ended hend => exact .ended fun herrors => h.keepEnd (hend herrors)
  · intro events id r e next hpending hmoves hr
    cases hmoves with
    | stays =>
        cases hr with
        | passing hrest herrors hx => exact .passing hrest herrors (h.keep hx)
        | calling hrest herrors hx => exact .calling hrest herrors (h.keep hx)
        | ended hend => exact .ended fun herrors => h.keepEnd (hend herrors)
    | finishes x s =>
        cases hr with
        | passing _ _ hx => exact .ended fun _ => h.finish hx
    | @passes x stage rest s p hp =>
        cases hr with
        | passing hrest herrors hx =>
            refine tracked_after ((List.suffix_cons _ _).trans hrest)
              (hp.frame.errors.trans herrors) (fun hv => h.pass hpending hrest hp hv hx)
              fun hv => ?_
            obtain rfl : stage = .cacheLookup :=
              Decidable.byContradiction fun hne => hp.frame.responds hne hv
            obtain rfl := hp.eq_pass nofun
            exact h.respond hpending hrest herrors hv hx
    | answered x c rest now a =>
        cases hr with
        | calling hrest herrors hx =>
            cases a with
            | ok response => exact .passing hrest herrors (h.answer hpending hx)
            | error e =>
                exact .ended fun hnone =>
                  absurd hnone (List.append_ne_nil_of_right_ne_nil _ nofun)
    | expired x c rest now =>
        exact .ended fun hnone => absurd hnone (List.append_ne_nil_of_right_ne_nil _ nofun)

end Tracking

end Traffic
end ApiGateway
