import ApiGateway.Proofs.Run.Dealings

/-!
# The course of a standard run

The dealings of a standard run follow one course: a lease is taken, the backend on lease is called,
the call ends, and the lease is given back; or the lease is given back without a call. `Account`
lists the places at which a standard run can be, each with the dealings that led there, and
`account_meet` follows it from one place to the next.
-/

namespace ApiGateway

/-- A request that was addressed to the backend on lease. -/
def Lease.Addresses (l : Lease) (q : Request) : Prop :=
  ∃ (scheme : String) (q₀ : Request), q₀.sendTo scheme l.service.endpoint = .ok q

/--
The dealings of a standard run, with the lease that it holds and the request whose answer it waits
for. A lease is given back once, after the call that used it, and nothing comes after that.
-/
inductive Course : List Dealing → Option Lease → Option Request → Prop
  | idle :
      Course [] none none
  | leased {l : Lease} :
      Course [.took l] (some l) none
  | calling {l : Lease} {q : Request} :
      l.Addresses q →
      Course [.took l, .called q] (some l) (some q)
  | answered {l : Lease} {q : Request} :
      l.Addresses q →
      Course [.took l, .called q, .settled] (some l) none
  | unused {l : Lease} :
      Course [.took l, .gaveBack l] none none
  | used {l : Lease} {q : Request} :
      l.Addresses q →
      Course [.took l, .called q, .settled, .gaveBack l] none none

/-- How often a lease that may be held counts at an endpoint of a load balancer. -/
def Lease.heldAt (held : Option Lease) (i : Nat) (endpoint : String) : Nat :=
  (held.map (·.countAt i endpoint)).getD 0

namespace Course

variable {ds : List Dealing}
variable {held : Option Lease}
variable {call : Option Request}

/-- What was taken was given back, or is still held. -/
theorem given_add_heldAt
    (h : Course ds held call)
    (i : Nat)
    (endpoint : String) :
    Dealing.given i endpoint ds + Lease.heldAt held i endpoint = Dealing.taken i endpoint ds := by
  cases h <;> simp [Dealing.given, Dealing.taken, Lease.heldAt]

/-- The beginning of a course is one. -/
theorem of_beginning
    (h : Course ds held call)
    {front : List Dealing}
    (hfront : front <+: ds) :
    ∃ held' call', Course front held' call' := by
  cases h with
  | idle =>
      rw [List.prefix_nil] at hfront
      subst hfront
      exact ⟨_, _, .idle⟩
  | leased =>
      simp only [List.prefix_cons_iff, List.prefix_nil] at hfront
      rcases hfront with rfl | ⟨_, rfl, rfl⟩
      · exact ⟨_, _, .idle⟩
      · exact ⟨_, _, .leased⟩
  | calling haddress =>
      simp only [List.prefix_cons_iff, List.prefix_nil] at hfront
      rcases hfront with rfl | ⟨_, rfl, rfl | ⟨_, rfl, rfl⟩⟩
      · exact ⟨_, _, .idle⟩
      · exact ⟨_, _, .leased⟩
      · exact ⟨_, _, .calling haddress⟩
  | answered haddress =>
      simp only [List.prefix_cons_iff, List.prefix_nil] at hfront
      rcases hfront with rfl | ⟨_, rfl, rfl | ⟨_, rfl, rfl | ⟨_, rfl, rfl⟩⟩⟩
      · exact ⟨_, _, .idle⟩
      · exact ⟨_, _, .leased⟩
      · exact ⟨_, _, .calling haddress⟩
      · exact ⟨_, _, .answered haddress⟩
  | unused =>
      simp only [List.prefix_cons_iff, List.prefix_nil] at hfront
      rcases hfront with rfl | ⟨_, rfl, rfl | ⟨_, rfl, rfl⟩⟩
      · exact ⟨_, _, .idle⟩
      · exact ⟨_, _, .leased⟩
      · exact ⟨_, _, .unused⟩
  | used haddress =>
      simp only [List.prefix_cons_iff, List.prefix_nil] at hfront
      rcases hfront with rfl | ⟨_, rfl, rfl | ⟨_, rfl, rfl | ⟨_, rfl, rfl | ⟨_, rfl, rfl⟩⟩⟩⟩
      · exact ⟨_, _, .idle⟩
      · exact ⟨_, _, .leased⟩
      · exact ⟨_, _, .calling haddress⟩
      · exact ⟨_, _, .answered haddress⟩
      · exact ⟨_, _, .used haddress⟩

/-- A lease that is held was taken. -/
theorem mem_of_held
    {l : Lease}
    (h : Course ds (some l) call) :
    .took l ∈ ds := by
  cases h <;> exact List.mem_cons_self

end Course

namespace Run

open Stage

/-- Where a standard run can be, and the dealings that led there. -/
inductive Account : List Dealing → Run → Prop
  | entering {x : Exchange} {stages : List Stage} :
      stages ≠ [] →
      stages <:+ entry ++ [requestConstruction, lease] →
      x.lease = none →
      Account [] ⟨x, .passing (stages ++ [backendCall, responseMapping, cacheStore, release])⟩
  | leased {x : Exchange} {l : Lease} {q : Request} :
      x.lease = some l →
      x.outbound = some q →
      l.Addresses q →
      Account [.took l] ⟨x, .passing [backendCall, responseMapping, cacheStore, release]⟩
  | calling {x : Exchange} {l : Lease} {c : BackendCall} :
      x.lease = some l →
      l.Addresses c.request →
      Account [.took l, .called c.request] ⟨x, .calling c [responseMapping, cacheStore, release]⟩
  | answered {x : Exchange} {l : Lease} {q : Request} {stages : List Stage} :
      x.lease = some l →
      l.Addresses q →
      stages <:+ [responseMapping, cacheStore] →
      Account [.took l, .called q, .settled] ⟨x, .passing (stages ++ [release])⟩
  | returned {x : Exchange} {l : Lease} {q : Request} :
      x.lease = none →
      l.Addresses q →
      Account [.took l, .called q, .settled, .gaveBack l] ⟨x, .passing []⟩
  | ended {ds : List Dealing} {x : Exchange} {response : Response} :
      Course ds none none →
      x.lease = none →
      Account ds ⟨x, .ended response⟩

/-- A run that has not ended goes on or waits; the end of a run takes its lease away. -/
theorem closing_cases
    (now : Instant)
    (rest : List Stage)
    (p : Passage) :
    (p.verdict = .proceed ∧
      p.closing = [] ∧
      (after now rest p).2 = ⟨p.exchange, .passing rest⟩) ∨
    (∃ c,
      p.verdict = .await c ∧
      p.closing = [] ∧
      (after now rest p).2 = ⟨p.exchange, .calling c rest⟩) ∨
    (p.verdict ≠ .proceed ∧
      p.closing = Dealing.returned p.exchange.lease ∧
      ∃ x response, x.lease = none ∧ (after now rest p).2 = ⟨x, .ended response⟩) := by
  unfold Passage.closing
  rcases after_cases now rest p with ⟨hv, h⟩ | ⟨c, hv, h⟩ | ⟨hv, h⟩ | ⟨e, hv, h⟩ <;> rw [hv, h]
  · exact Or.inl ⟨rfl, rfl, rfl⟩
  · exact Or.inr (Or.inl ⟨c, rfl, rfl, rfl⟩)
  · exact Or.inr (Or.inr ⟨fun hc => Verdict.noConfusion hc, rfl, _, _, rfl, rfl⟩)
  · exact Or.inr (Or.inr ⟨fun hc => Verdict.noConfusion hc, rfl, _, _, rfl, rfl⟩)

/-- What an account says about the lease that a run holds and the call that it waits for. -/
theorem Account.course
    {ds : List Dealing}
    {r : Run}
    (h : Account ds r) :
    Course ds r.exchange.lease (r.call?.map (·.request)) := by
  cases h with
  | entering _ _ hlease =>
      rw [hlease]
      exact .idle
  | leased hlease _ _ =>
      rw [hlease]
      exact .leased
  | calling hlease haddress =>
      rw [hlease]
      exact .calling haddress
  | answered hlease haddress _ =>
      rw [hlease]
      exact .answered haddress
  | returned hlease haddress =>
      rw [hlease]
      exact .used haddress
  | ended hcourse hlease =>
      rw [hlease]
      exact hcourse

/-- Every standard run starts without dealings. -/
theorem account_start
    (request : Request)
    (peer : SocketAddress)
    (requestId : String)
    (now : Instant) :
    Account [] (start request peer requestId now) :=
  have hahead : entry ++ [requestConstruction, lease] ≠ [] := nofun
  .entering hahead (List.suffix_refl _) rfl

@[simp] theorem closing_refuse (g : Gateway) (x : Exchange) (e : GatewayError) :
    (Passage.refuse g x e).closing = Dealing.returned x.lease :=
  rfl

@[simp] theorem closing_proceed (g : Gateway) (x : Exchange) :
    (Passage.proceed g x).closing = [] :=
  rfl

/-- The lease stage comes last of those in front of the call. -/
theorem eq_or_mem_of_suffix
    {stage : Stage}
    {stages : List Stage}
    (h : stage :: stages <:+ entry ++ [requestConstruction, lease]) :
    (stage = lease ∧ stages = []) ∨
    (stage ∉ [lease, backendCall, release] ∧ stages ≠ []) := by
  have hlast : entry ++ [requestConstruction, lease] =
      (entry ++ [requestConstruction]) ++ [lease] := rfl
  rw [hlast, List.suffix_concat_iff] at h
  rcases h with h | ⟨front, heq, hfront⟩
  · cases h
  · cases front with
    | nil =>
        cases heq
        exact Or.inl ⟨rfl, rfl⟩
    | cons t ts =>
        obtain ⟨rfl, rfl⟩ := List.cons.inj heq
        have hmem : stage ∈ entry ++ [requestConstruction] := hfront.mem List.mem_cons_self
        refine Or.inr ⟨?_, List.append_ne_nil_of_right_ne_nil _ nofun⟩
        revert hmem
        cases stage <;> decide

section Steps

variable {ds : List Dealing}
variable {x : Exchange}

/-- A stage that has nothing to do with leases leads to the next place, or to the end. -/
theorem account_aloof
    {s : Surroundings}
    {g : Gateway}
    {stage : Stage}
    {rest : List Stage}
    (hstage : stage ∉ [lease, backendCall, release])
    (hnext : ∀ y : Exchange, y.lease = x.lease → Account ds ⟨y, .passing rest⟩)
    (hend : Course (ds ++ Dealing.returned x.lease) none none) :
    Account
      (ds ++ dealings g ⟨x, .passing (stage :: rest)⟩ (.pass s))
      (meet g ⟨x, .passing (stage :: rest)⟩ (.pass s)).2 := by
  have haloof := aloof_pass s g x hstage
  have hnone : stage.dealings s g x = [] := by
    cases stage <;> first | rfl | exact absurd (by decide) hstage
  rcases closing_cases s.now rest (stage.pass s g x) with
    ⟨_, hclosing, h⟩ | ⟨c, hv, _⟩ | ⟨_, hclosing, y, response, hy, h⟩
  · simp only [dealings, meet, step, hnone, hclosing, h, List.append_nil]
    exact hnext _ haloof.lease
  · exact absurd hv (haloof.answers c)
  · simp only [dealings, meet, step, hnone, hclosing, h, List.nil_append, haloof.lease]
    exact .ended hend hy

/-- With a lease the request is addressed, or the run ends without one. -/
theorem account_useLease
    (now : Instant)
    (r : Route)
    (taken : Gateway × Except GatewayError Lease)
    (hlease : x.lease = none) :
    Account
      (useDealings x r taken ++ (useLease x r taken).closing)
      (after now [backendCall, responseMapping, cacheStore, release] (useLease x r taken)).2 := by
  obtain ⟨g, result⟩ := taken
  cases result with
  | error e =>
      simp only [useDealings, useLease, closing_refuse, hlease]
      exact .ended .idle rfl
  | ok l =>
      simp only [useDealings, useLease]
      rcases address_cases (g.countLease r.key l.service.endpoint) x r l with
        ⟨e, ha⟩ | ⟨q₀, q, _, hq, ha⟩ <;>
        rw [ha]
      · simp only [closing_refuse, hlease]
        exact .ended .unused rfl
      · simp only [closing_proceed, hlease]
        exact .leased rfl rfl ⟨_, _, hq⟩

/-- The lease stage takes a lease, or the run ends without one. -/
theorem account_takeLease
    {s : Surroundings}
    {g : Gateway}
    (hlease : x.lease = none) :
    Account
      (dealings g ⟨x, .passing [lease, backendCall, responseMapping, cacheStore, release]⟩
        (.pass s))
      (meet g ⟨x, .passing [lease, backendCall, responseMapping, cacheStore, release]⟩
        (.pass s)).2 := by
  simp only [dealings, meet, step, Stage.pass, Stage.dealings, Stage.takeLease]
  rcases onRoute_cases g x _ with ⟨hx, h⟩ | ⟨r, hx, h⟩
  · rw [h, hx, closing_refuse, hlease]
    exact .ended .idle rfl
  · rw [h, hx]
    exact account_useLease s.now r.route (g.takeLease s r.route) hlease

/-- The same when the registry has answered. -/
theorem account_lateLease
    {s : Surroundings}
    {g : Gateway}
    {p : PendingLease}
    (hlease : x.lease = none) :
    Account
      (Stage.endDealings s g x p ++ (Stage.endLease s g x p).closing)
      (after s.now [backendCall, responseMapping, cacheStore, release]
        (Stage.endLease s g x p)).2 := by
  simp only [Stage.endDealings, Stage.endLease]
  rcases onRoute_cases g x _ with ⟨hx, h⟩ | ⟨r, hx, h⟩
  · rw [h, hx, closing_refuse, hlease]
    exact .ended .idle rfl
  · rw [h, hx]
    exact account_useLease s.now r.route (g.endLease s p) hlease

/-- The call stage calls the backend on lease, or the run ends and gives the lease back. -/
theorem account_beginCall
    {s : Surroundings}
    {g : Gateway}
    {l : Lease}
    {q : Request}
    (hlease : x.lease = some l)
    (houtbound : x.outbound = some q)
    (haddress : l.Addresses q) :
    Account
      ([.took l] ++
        dealings g ⟨x, .passing [backendCall, responseMapping, cacheStore, release]⟩ (.pass s))
      (meet g ⟨x, .passing [backendCall, responseMapping, cacheStore, release]⟩ (.pass s)).2 := by
  simp only [dealings, meet, step, Stage.pass, Stage.dealings]
  rcases beginCall_cases s g x with
    ⟨e, h⟩ | ⟨r, l', q', breakers, metrics, e, _, _, _, h⟩ |
      ⟨r, l', q', scope, breakers, guard, _, _, hq', _, h⟩ <;>
    rw [h]
  · simp only [closing_refuse, hlease]
    exact .ended .unused rfl
  · simp only [closing_refuse, hlease]
    exact .ended .unused rfl
  · rw [houtbound] at hq'
    cases hq'
    exact .calling hlease haddress

/-- The end of a call leads on, or to the end of the run. -/
theorem account_endCall
    {now : Instant}
    {g : Gateway}
    {c : BackendCall}
    {l : Lease}
    (a : Except GatewayError Response)
    (hlease : x.lease = some l)
    (haddress : l.Addresses c.request) :
    Account
      ([.took l, .called c.request] ++ .settled :: (endCall now g x c a).closing)
      (after now [responseMapping, cacheStore, release] (endCall now g x c a)).2 := by
  cases a with
  | ok r =>
      have hnext : Account [.took l, .called c.request, .settled]
          ⟨{ x with backendResponse := some r },
            .passing ([responseMapping, cacheStore] ++ [release])⟩ :=
        .answered hlease haddress (List.suffix_refl _)
      exact hnext
  | error e =>
      have hclosing : (endCall now g x c (.error e)).closing = Dealing.returned x.lease := rfl
      rw [hclosing, hlease]
      exact .ended (.used haddress) rfl

/-- The release stage gives the lease back, and nothing is left to do. -/
theorem account_release
    {s : Surroundings}
    {g : Gateway}
    {l : Lease}
    {q : Request}
    (hlease : x.lease = some l)
    (haddress : l.Addresses q) :
    Account
      ([.took l, .called q, .settled] ++ dealings g ⟨x, .passing [release]⟩ (.pass s))
      (meet g ⟨x, .passing [release]⟩ (.pass s)).2 := by
  simp only [dealings, Stage.dealings, hlease]
  exact .returned rfl haddress

end Steps

/-- A standard run keeps to its course, whatever happens to it. -/
theorem account_meet
    {ds : List Dealing}
    {r : Run}
    (h : Account ds r)
    (g : Gateway)
    (e : Event) :
    Account (ds ++ r.dealings g e) (r.meet g e).2 := by
  cases h with
  | @entering x stages hne hsuffix hlease =>
      cases e with
      | pass s =>
          cases stages with
          | nil => exact absurd rfl hne
          | cons stage stages =>
              rcases eq_or_mem_of_suffix hsuffix with ⟨rfl, rfl⟩ | ⟨hstage, hstages⟩
              · exact account_takeLease hlease
              · refine account_aloof hstage (fun y hy => ?_) ?_
                · exact .entering hstages ((List.suffix_cons _ _).trans hsuffix) (hy.trans hlease)
                · rw [hlease]
                  exact .idle
      | answer now a => exact .entering hne hsuffix hlease
      | expire now => exact .entering hne hsuffix hlease
  | @leased x l q hlease houtbound haddress =>
      cases e with
      | pass s => exact account_beginCall hlease houtbound haddress
      | answer now a => exact .leased hlease houtbound haddress
      | expire now => exact .leased hlease houtbound haddress
  | @calling x l c hlease haddress =>
      cases e with
      | pass s => exact .calling hlease haddress
      | answer now a => exact account_endCall a hlease haddress
      | expire now => exact account_endCall _ hlease haddress
  | @answered x l q stages hlease haddress hsuffix =>
      cases e with
      | pass s =>
          cases stages with
          | nil => exact account_release hlease haddress
          | cons stage stages =>
              have hmem : stage ∈ [responseMapping, cacheStore] :=
                hsuffix.mem List.mem_cons_self
              have hstage : stage ∉ [lease, backendCall, release] := by
                revert hmem
                cases stage <;> decide
              refine account_aloof hstage (fun y hy => ?_) ?_
              · exact .answered (hy.trans hlease) haddress ((List.suffix_cons _ _).trans hsuffix)
              · rw [hlease]
                exact .used haddress
      | answer now a => exact .answered hlease haddress hsuffix
      | expire now => exact .answered hlease haddress hsuffix
  | @returned x l q hlease haddress =>
      cases e with
      | pass s =>
          simp only [dealings, hlease]
          exact .ended (.used haddress) rfl
      | answer now a => exact .returned hlease haddress
      | expire now => exact .returned hlease haddress
  | @ended ds x response hcourse hlease =>
      cases e with
      | pass s =>
          rw [dealings, List.append_nil]
          exact .ended hcourse hlease
      | answer now a =>
          rw [dealings, List.append_nil]
          exact .ended hcourse hlease
      | expire now =>
          rw [dealings, List.append_nil]
          exact .ended hcourse hlease

/-- It also keeps to its course where it had to wait for the registry. -/
theorem account_endLease
    {ds : List Dealing}
    {r : Run}
    (h : Account ds r)
    (s : Surroundings)
    (g : Gateway)
    (p : PendingLease) :
    Account (ds ++ r.endDealings s g p) (r.endLease s g p).2 := by
  rcases endLease_cases s g r p with ⟨y, rest, hr⟩ | ⟨hsame, hnone⟩
  · cases h with
    | @entering x stages hne hsuffix hlease =>
        cases stages with
        | nil => exact absurd rfl hne
        | cons stage stages =>
            obtain ⟨rfl, -⟩ := List.cons.inj (Phase.passing.inj (Run.mk.inj hr).2)
            rcases eq_or_mem_of_suffix hsuffix with ⟨_, rfl⟩ | ⟨hstage, _⟩
            · exact account_lateLease hlease
            · exact absurd List.mem_cons_self hstage
    | @answered x l q stages hlease haddress hsuffix =>
        cases stages with
        | nil => cases hr
        | cons stage stages =>
            obtain ⟨rfl, -⟩ := List.cons.inj (Phase.passing.inj (Run.mk.inj hr).2)
            have hmem : lease ∈ [responseMapping, cacheStore] := hsuffix.mem List.mem_cons_self
            exact absurd hmem (by decide)
    | leased _ _ _ => cases hr
    | calling _ _ => cases hr
    | returned _ _ => cases hr
    | ended _ _ => cases hr
  · rw [hsame, hnone, List.append_nil]
    exact h

/-- A run that is given up gives back what it holds. -/
theorem Account.parting
    {ds : List Dealing}
    {r : Run}
    (h : Account ds r) :
    Course (ds ++ r.parting) none none := by
  cases h with
  | entering _ _ hlease =>
      simp only [Run.parting, hlease]
      exact .idle
  | leased hlease _ _ =>
      simp only [Run.parting, hlease]
      exact .unused
  | calling hlease haddress =>
      simp only [Run.parting, hlease]
      exact .used haddress
  | answered hlease haddress _ =>
      simp only [Run.parting, hlease]
      exact .used haddress
  | returned hlease haddress =>
      simp only [Run.parting, hlease]
      exact .used haddress
  | ended hcourse hlease =>
      simp only [Run.parting, hlease]
      rw [Dealing.returned, Option.map_none, Option.toList_none, List.append_nil]
      exact hcourse

/-- A run that is over holds nothing. -/
theorem Account.closed
    {ds : List Dealing}
    {r : Run}
    (h : Account ds r)
    (hover : r.isOver = true) :
    Course ds none none := by
  cases h with
  | ended hcourse _ => exact hcourse
  | entering _ _ _ => cases hover
  | leased _ _ _ => cases hover
  | calling _ _ => cases hover
  | answered _ _ _ => cases hover
  | returned _ _ => cases hover

/-- Whether a run that is not over holds a lease of an endpoint of a load balancer. -/
def holds (r : Run) (i : Nat) (endpoint : String) : Bool :=
  ! r.isOver && r.exchange.lease.any fun l => l.balancer = i ∧ l.service.endpoint = endpoint

theorem holds_eq_true_iff
    {r : Run}
    {i : Nat}
    {endpoint : String} :
    r.holds i endpoint = true ↔
      r.isOver = false ∧
        ∃ l, r.exchange.lease = some l ∧ l.balancer = i ∧ l.service.endpoint = endpoint := by
  simp [holds, Option.any_eq_true]

/-- A standard run counts where it holds a lease. -/
theorem Account.heldAt_eq
    {ds : List Dealing}
    {r : Run}
    (h : Account ds r)
    (i : Nat)
    (endpoint : String) :
    Lease.heldAt r.exchange.lease i endpoint = if r.holds i endpoint then 1 else 0 := by
  unfold holds Lease.heldAt
  cases hover : r.isOver with
  | true =>
      have hlease : r.exchange.lease = none := by
        cases h with
        | ended _ hlease => exact hlease
        | entering _ _ hlease => exact hlease
        | returned hlease _ => exact hlease
        | leased _ _ _ => cases hover
        | calling _ _ => cases hover
        | answered _ _ _ => cases hover
      rw [hlease]
      rfl
  | false =>
      cases r.exchange.lease with
      | none => rfl
      | some l => simp [Lease.countAt]

end Run
end ApiGateway
