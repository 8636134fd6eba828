import ApiGateway.Proofs.Cache.Room

/-!
# The history of an output cache

What is asked of a cache, each at an instant, with the answers that it gives in the course of a
history. `Asked` lists what one question may do, seen through what a sweep at its instant would
leave; so two caches of which a sweep leaves the same answer every read and every write alike
(`uses_history_eq`), whether or not sweeps come in between.
-/

namespace ApiGateway
namespace Cache

/-- What may be asked of a cache. -/
inductive Event
  | add (now : Instant) (key : String) (response : Response) (ttl : Duration) (region : String)
  | get (now : Instant) (key region : String)
  | clearRegion (now : Instant) (region : String)
  | evictExpired (now : Instant)

namespace Event

def time : Event → Instant
  | .add now .. => now
  | .get now .. => now
  | .clearRegion now _ => now
  | .evictExpired now => now

def isSweep : Event → Bool
  | .evictExpired _ => true
  | _ => false

/-- Whether an event reads or writes an answer. -/
def isUse : Event → Bool
  | .add .. => true
  | .get .. => true
  | _ => false

end Event

/-- What a cache answers. -/
inductive Answer
  | stored
  | refused (error : GatewayError)
  | found (response : Option Response)
  | cleared (count : Nat)
  | swept

/-- An event with the answer to it. -/
structure Record where
  event : Event
  answer : Answer

def Ordered (events : List Event) : Prop :=
  events.Pairwise fun e e' => e.time ≤ e'.time

instance (events : List Event) : Decidable (Ordered events) :=
  inferInstanceAs (Decidable (events.Pairwise fun e e' => e.time ≤ e'.time))

/-- The reads and the writes of a history with their answers. -/
def uses (records : List Record) : List Record :=
  records.filter (·.event.isUse)

section Uses

variable {e : Event}
variable {a : Answer}
variable {records : List Record}

theorem uses_cons_of_isUse (h : e.isUse = true) :
    uses (⟨e, a⟩ :: records) = ⟨e, a⟩ :: uses records :=
  List.filter_cons_of_pos h

theorem uses_cons_of_not_isUse (h : e.isUse = false) :
    uses (⟨e, a⟩ :: records) = uses records :=
  List.filter_cons_of_neg (by simp [h])

end Uses

namespace Store

/-- The answer to an event. -/
def ask (s : Store) : Event → Store × Answer
  | .add now key r ttl region =>
      match s.add key r ttl region now with
      | (s, .ok ()) => (s, .stored)
      | (s, .error e) => (s, .refused e)
  | .get now key region => (s, .found (s.get? key region now))
  | .clearRegion _ region => ((s.clearRegion region).1, .cleared (s.clearRegion region).2)
  | .evictExpired now => (s.evictExpired now, .swept)

/-- The cache after a history. -/
def after (s : Store) (events : List Event) : Store :=
  events.foldl (fun s e => (s.ask e).1) s

/-- The answers of a cache in the course of a history. -/
def history (s : Store) : List Event → List Record
  | [] => []
  | e :: es => ⟨e, (s.ask e).2⟩ :: history (s.ask e).1 es

theorem after_append
    (s : Store)
    (before later : List Event) :
    s.after (before ++ later) = (s.after before).after later :=
  List.foldl_append

theorem history_append
    (s : Store)
    (before later : List Event) :
    s.history (before ++ later) = s.history before ++ (s.after before).history later := by
  induction before generalizing s with
  | nil => rfl
  | cons e es ih => exact congrArg _ (ih _)

section Adding

variable {s s' : Store}
variable {key region : String}
variable {r : Response}
variable {ttl : Duration}
variable {now : Instant}

theorem ask_add_of_ok (h : s.add key r ttl region now = (s', .ok ())) :
    s.ask (.add now key r ttl region) = (s', .stored) := by
  rw [ask, h]

theorem ask_add_of_error
    {error : GatewayError}
    (h : s.add key r ttl region now = (s', .error error)) :
    s.ask (.add now key r ttl region) = (s', .refused error) := by
  rw [ask, h]

end Adding

/-- What an event does to a cache and what is answered. -/
inductive Asked (s s' : Store) : Event → Answer → Prop
  | stored {now : Instant} {key : String} {r : Response} {ttl : Duration} {region : String} :
      s.HasRoom key now →
      s'.evictExpired now = (s.put key r ttl region now).evictExpired now →
      Asked s s' (.add now key r ttl region) .stored
  | refused {now : Instant} {key : String} {r : Response} {ttl : Duration} {region : String} :
      ¬ s.HasRoom key now →
      s'.evictExpired now = s.evictExpired now →
      Asked s s' (.add now key r ttl region) (.refused s.full)
  | found {now : Instant} {key region : String} :
      s' = s →
      Asked s s' (.get now key region) (.found (s.get? key region now))
  | cleared {now : Instant} {region : String} :
      s' = (s.clearRegion region).1 →
      Asked s s' (.clearRegion now region) (.cleared (s.clearRegion region).2)
  | swept {now : Instant} :
      s' = s.evictExpired now →
      Asked s s' (.evictExpired now) .swept

/-- No more is stored than there may be. -/
def Fits (s : Store) : Prop := s.size ≤ s.capacity

/-- Every event does what is listed. -/
theorem Fits.asked
    {s : Store}
    (hfits : s.Fits)
    (e : Event) :
    Asked s (s.ask e).1 e (s.ask e).2 := by
  cases e with
  | add now key r ttl region =>
      rcases s.add_cases hfits key r ttl region now with ⟨hroom, s', hs', _, hadd⟩ | ⟨hnone, hadd⟩
      · rw [ask_add_of_ok hadd]
        refine .stored hroom ?_
        rcases hs' with rfl | rfl
        · rfl
        · exact s.evictExpired_put_evictExpired
      · rw [ask_add_of_error hadd]
        exact .refused hnone (s.evictExpired_evictExpired (Nat.le_refl _))
  | get now key region => exact .found rfl
  | clearRegion now region => exact .cleared rfl
  | evictExpired now => exact .swept rfl

theorem Fits.ask
    {s : Store}
    (hfits : s.Fits)
    (e : Event) :
    (s.ask e).1.Fits := by
  have hswept (now : Instant) : (s.evictExpired now).Fits :=
    Nat.le_trans (s.size_evictExpired_le now) hfits
  cases e with
  | add now key r ttl region =>
      rcases s.add_cases hfits key r ttl region now with ⟨_, s', hs', hroom, hadd⟩ | ⟨_, hadd⟩
      · rw [ask_add_of_ok hadd]
        refine s'.size_put_le ?_ hroom
        rcases hs' with rfl | rfl
        · exact hfits
        · exact hswept now
      · rw [ask_add_of_error hadd]
        exact hswept now
  | get now key region => exact hfits
  | clearRegion now region => exact Nat.le_trans Std.ExtTreeMap.size_filter_le_size hfits
  | evictExpired now => exact hswept now

theorem Fits.after
    {s : Store}
    (hfits : s.Fits)
    (events : List Event) :
    (s.after events).Fits := by
  induction events generalizing s with
  | nil => exact hfits
  | cons e es ih => exact ih (hfits.ask e)

/-- A cache that was just opened holds nothing. -/
theorem fits_new (capacity : Nat) : Fits { capacity } := by
  rw [Fits, size, Std.ExtTreeMap.size_empty]
  exact Nat.zero_le _

/-- A sweep at an instant would leave the same of both caches. -/
structure Alike (t : Instant) (s s' : Store) : Prop where
  left : s.Fits
  right : s'.Fits
  live : s.evictExpired t = s'.evictExpired t

namespace Alike

variable {s s' : Store}
variable {t now : Instant}

theorem later
    (h : Alike t s s')
    (ht : t ≤ now) :
    Alike now s s' where
  left := h.left
  right := h.right
  live := by
    rw [← s.evictExpired_evictExpired ht, h.live, s'.evictExpired_evictExpired ht]

theorem symm (h : Alike t s s') : Alike t s' s :=
  ⟨h.right, h.left, h.live.symm⟩

theorem capacity_eq (h : Alike t s s') : s.capacity = s'.capacity :=
  show (s.evictExpired t).capacity = (s'.evictExpired t).capacity from congrArg capacity h.live

theorem hasRoom_iff
    (h : Alike t s s')
    (key : String) :
    s.HasRoom key t ↔ s'.HasRoom key t := by
  unfold HasRoom
  rw [h.live, h.capacity_eq]

/-- Sweeps at the instant do not tell alike caches apart. -/
theorem sweep_left (h : Alike t s s') : Alike t (s.evictExpired t) s' where
  left := Nat.le_trans (s.size_evictExpired_le t) h.left
  right := h.right
  live := (s.evictExpired_evictExpired (Nat.le_refl _)).trans h.live

/-- What is under a key after a write, as far as it has not expired. -/
theorem put
    (h : s.evictExpired now = s'.evictExpired now)
    (key : String)
    (r : Response)
    (ttl : Duration)
    (region : String) :
    (s.put key r ttl region now).evictExpired now =
      (s'.put key r ttl region now).evictExpired now := by
  rw [← s.evictExpired_put_evictExpired, h, s'.evictExpired_put_evictExpired]

theorem clearRegion
    (h : s.evictExpired now = s'.evictExpired now)
    (region : String) :
    (s.clearRegion region).1.evictExpired now = (s'.clearRegion region).1.evictExpired now := by
  refine ext_getElem? (congrArg capacity h :) fun key => ?_
  have hkey := congrArg (fun s : Store => s.entries[key]?.filter fun e => e.region ≠ region) h
  simp only [getElem?_evictExpired, getElem?_clearRegion, Option.filter_filter] at hkey ⊢
  simpa only [Bool.and_comm] using hkey

/-- Alike caches stay alike, and answer reads and writes alike. -/
theorem ask
    (h : Alike t s s')
    {e : Event}
    (ht : t ≤ e.time) :
    Alike e.time (s.ask e).1 (s'.ask e).1 ∧
      (e.isUse = true → (s.ask e).2 = (s'.ask e).2) := by
  have hnow := h.later ht
  suffices hstep : (s.ask e).1.evictExpired e.time = (s'.ask e).1.evictExpired e.time ∧
      (e.isUse = true → (s.ask e).2 = (s'.ask e).2) from
    ⟨⟨h.left.ask e, h.right.ask e, hstep.1⟩, hstep.2⟩
  have hleft := h.left.asked e
  have hright := h.right.asked e
  generalize s.ask e = p at *
  generalize s'.ask e = p' at *
  obtain ⟨u, a⟩ := p
  obtain ⟨u', a'⟩ := p'
  dsimp only at *
  cases hleft with
  | stored hroom hu =>
      cases hright with
      | stored _ hu' => exact ⟨(hu.trans (put hnow.live _ _ _ _)).trans hu'.symm, fun _ => rfl⟩
      | refused hnone _ => exact absurd ((hnow.hasRoom_iff _).1 hroom) hnone
  | refused hnone hu =>
      cases hright with
      | stored hroom _ => exact absurd ((hnow.hasRoom_iff _).2 hroom) hnone
      | refused _ hu' =>
          refine ⟨(hu.trans hnow.live).trans hu'.symm, fun _ => ?_⟩
          rw [full, full, h.capacity_eq]
  | found hu =>
      cases hright with
      | found hu' =>
          subst hu hu'
          refine ⟨hnow.live, fun _ => congrArg _ ?_⟩
          ext v
          rw [get?_eq_some_iff, get?_eq_some_iff]
          exact hnow.live ▸ Iff.rfl
  | cleared hu =>
      cases hright with
      | cleared hu' =>
          subst hu hu'
          exact ⟨clearRegion hnow.live _, nofun⟩
  | swept hu =>
      cases hright with
      | swept hu' =>
          subst hu hu'
          exact ⟨congrArg (evictExpired · _) hnow.live, nofun⟩

/-- The reads and the writes of a history are answered alike, also when its sweeps are left out. -/
theorem uses_history_eq
    (h : Alike t s s')
    {events : List Event}
    (horder : Ordered events)
    (hlater : ∀ e ∈ events, t ≤ e.time) :
    uses (s.history events) = uses (s'.history (events.filter (! ·.isSweep))) := by
  induction events generalizing s s' t with
  | nil => rfl
  | cons e es ih =>
      obtain ⟨hfirst, hrest⟩ := List.pairwise_cons.1 horder
      have ht := hlater e List.mem_cons_self
      cases hsweep : e.isSweep with
      | true =>
          cases e with
          | evictExpired now => exact ih (h.later ht).sweep_left hrest hfirst
          | _ => cases hsweep
      | false =>
          obtain ⟨halike, hanswer⟩ := h.ask ht
          have htail := ih halike hrest hfirst
          rw [List.filter_cons_of_pos (by simp [hsweep]), history, history]
          cases huse : e.isUse with
          | true => rw [uses_cons_of_isUse huse, uses_cons_of_isUse huse, hanswer huse, htail]
          | false => rw [uses_cons_of_not_isUse huse, uses_cons_of_not_isUse huse, htail]

/-- The reads and the writes of a history are answered alike. -/
theorem uses_history
    (h : Alike t s s')
    {events : List Event}
    (horder : Ordered events)
    (hlater : ∀ e ∈ events, t ≤ e.time) :
    uses (s.history events) = uses (s'.history events) := by
  have hsame : Alike t s' s' := ⟨h.right, h.right, rfl⟩
  rw [h.uses_history_eq horder hlater, hsame.uses_history_eq horder hlater]

end Alike

/-- A write that is refused leaves what a sweep would leave. -/
theorem Fits.alike_of_refused
    {s : Store}
    (hfits : s.Fits)
    {e : Event}
    {error : GatewayError}
    (h : (s.ask e).2 = .refused error) :
    Alike e.time (s.ask e).1 s := by
  refine ⟨hfits.ask e, hfits, ?_⟩
  have hasked := hfits.asked e
  rw [h] at hasked
  cases hasked with
  | refused _ hlive => exact hlive

end Store
end Cache
end ApiGateway
