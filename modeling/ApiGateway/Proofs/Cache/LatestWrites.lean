import ApiGateway.Proofs.Cache.History
import Mathlib.Data.List.Induction
import Mathlib.Logic.Function.Basic

/-!
# The cache as a map of the latest writes

What a read finds is told by the history alone: the latest answer that was stored under the key, if
it was stored in the region that is asked for, its time is not over, and the region was not cleared
since (`LatestWrite`). The map of these writes (`latest`) knows no capacity and is never swept; the
cache shows it at every instant (`Shows`), up to entries whose time is over.

The main statement is `refines_latest_writes`. Beside the reads, it says that sweeps and refused
writes cannot be told from the answers to reads and writes, and what clearing a region does.
-/

namespace ApiGateway
namespace Cache

/-- What was written under a key: an answer at an instant, for a length of time, in a region. -/
structure Write where
  time : Instant
  response : Response
  ttl : Duration
  region : String

def Write.entry (w : Write) : Entry := ⟨w.response, w.region, w.time + w.ttl⟩

/-- The entry of a write expires when its time is over. -/
theorem Write.isExpired_entry_eq_false_iff
    (w : Write)
    (now : Instant) :
    w.entry.isExpired now = false ↔ now < w.time + w.ttl := by
  rw [entry, Entry.isExpired, decide_eq_false_iff_not, Nat.not_le]

/-- The record of a write under a key. -/
def Write.record (w : Write) (key : String) : Record :=
  ⟨.add w.time key w.response w.ttl w.region, .stored⟩

theorem Write.record_injective
    {w w' : Write}
    {key : String}
    (h : w.record key = w'.record key) :
    w = w' := by
  obtain ⟨t, v, ttl, region⟩ := w
  obtain ⟨t', v', ttl', region'⟩ := w'
  simp only [record, Record.mk.injEq, Event.add.injEq, true_and, and_true] at h
  obtain ⟨rfl, rfl, rfl, rfl⟩ := h
  rfl

def Record.Writes (key : String) (r : Record) : Prop := ∃ w : Write, r = w.record key

def Record.Clears (region : String) (r : Record) : Prop :=
  ∃ now, r.event = .clearRegion now region

/-- The latest write under a key, if its region was not cleared since. -/
def LatestWrite (records : List Record) (key : String) (w : Write) : Prop :=
  ∃ earlier later,
    records = earlier ++ w.record key :: later ∧
    (∀ r ∈ later, ¬ r.Writes key) ∧
    (∀ r ∈ later, ¬ r.Clears w.region)

/-- What was written under each key. -/
abbrev Writes := String → Option Write

/-- Takes note of a record. -/
def Writes.note (writes : Writes) (r : Record) : Writes :=
  match r.event, r.answer with
  | .add now key v ttl region, .stored => Function.update writes key (some ⟨now, v, ttl, region⟩)
  | .clearRegion _ region, _ => fun key => (writes key).filter fun w => w.region ≠ region
  | _, _ => writes

/-- The latest writes of a history, as far as their regions were not cleared since. -/
def latest (records : List Record) : Writes :=
  records.foldl Writes.note fun _ => none

theorem latest_append_singleton
    (records : List Record)
    (r : Record) :
    latest (records ++ [r]) = (latest records).note r := by
  rw [latest, List.foldl_append]
  rfl

section Latest

variable {records : List Record}
variable {key : String}
variable {w : Write}
variable {r : Record}

/-- A place in a list with a last element is that element, or lies before it. -/
theorem append_singleton_eq_append_cons_iff
    {α : Type}
    {xs earlier later : List α}
    {last x : α} :
    xs ++ [last] = earlier ++ x :: later ↔
      (xs = earlier ∧ last = x ∧ later = []) ∨
      ∃ between, xs = earlier ++ x :: between ∧ later = between ++ [last] := by
  constructor
  · intro h
    rcases later.eq_nil_or_concat with rfl | ⟨between, y, rfl⟩
    · obtain ⟨hfront, hlast⟩ := List.append_inj' h rfl
      exact .inl ⟨hfront, List.singleton_inj.1 hlast, rfl⟩
    · rw [List.concat_eq_append] at h ⊢
      rw [← List.cons_append, ← List.append_assoc] at h
      obtain ⟨hfront, hlast⟩ := List.append_inj' h rfl
      exact .inr ⟨between, hfront, by rw [hlast]⟩
  · rintro (⟨rfl, rfl, rfl⟩ | ⟨between, rfl, rfl⟩)
    · rfl
    · rw [List.append_assoc, List.cons_append]

theorem not_latestWrite_nil : ¬ LatestWrite [] key w := by
  rintro ⟨earlier, later, h, _⟩
  exact List.append_ne_nil_of_right_ne_nil earlier (List.cons_ne_nil _ _) h.symm

/-- A write is the latest one under its key. -/
theorem latestWrite_append_record_iff
    {w' : Write} :
    LatestWrite (records ++ [w'.record key]) key w ↔ w' = w := by
  constructor
  · rintro ⟨earlier, later, h, hwrites, _⟩
    rcases append_singleton_eq_append_cons_iff.1 h with ⟨_, hlast, _⟩ | ⟨between, _, rfl⟩
    · exact Write.record_injective hlast
    · exact absurd ⟨w', rfl⟩ (hwrites _ (List.mem_append_right _ List.mem_cons_self))
  · rintro rfl
    exact ⟨records, [], rfl, nofun, nofun⟩

/-- A record that writes nothing under the key leaves the latest write, or clears its region. -/
theorem latestWrite_append_iff (hr : ¬ r.Writes key) :
    LatestWrite (records ++ [r]) key w ↔ LatestWrite records key w ∧ ¬ r.Clears w.region := by
  constructor
  · rintro ⟨earlier, later, h, hwrites, hclears⟩
    rcases append_singleton_eq_append_cons_iff.1 h with ⟨_, rfl, _⟩ | ⟨between, hfront, rfl⟩
    · exact absurd ⟨w, rfl⟩ hr
    · obtain ⟨hwrites, _⟩ := List.forall_mem_append.1 hwrites
      obtain ⟨hclears, hlast⟩ := List.forall_mem_append.1 hclears
      exact ⟨⟨earlier, between, hfront, hwrites, hclears⟩, hlast r List.mem_cons_self⟩
  · rintro ⟨⟨earlier, between, rfl, hwrites, hclears⟩, hlast⟩
    refine ⟨earlier, between ++ [r], by rw [List.append_assoc, List.cons_append], ?_, ?_⟩
    · exact List.forall_mem_append.2 ⟨hwrites, List.forall_mem_singleton.2 hr⟩
    · exact List.forall_mem_append.2 ⟨hclears, List.forall_mem_singleton.2 hlast⟩

section Noting

variable (writes : Writes)

/-- A write replaces the one under its key. -/
theorem note_record : writes.note (w.record key) key = some w :=
  Function.update_self ..

theorem note_record_of_ne
    {key' : String}
    (hkey : key ≠ key') :
    writes.note (w.record key) key' = writes key' :=
  Function.update_of_ne hkey.symm ..

theorem note_clearRegion
    (now : Instant)
    (region : String)
    (answer : Answer) :
    writes.note ⟨.clearRegion now region, answer⟩ key =
      (writes key).filter fun w => w.region ≠ region :=
  rfl

/-- Any other record leaves what is under the key, or clears its region. -/
theorem note_eq_some_iff (hr : ¬ r.Writes key) :
    writes.note r key = some w ↔ writes key = some w ∧ ¬ r.Clears w.region := by
  obtain ⟨event, answer⟩ := r
  have hkeep (h : ∀ now region, event ≠ .clearRegion now region) :
      writes key = some w ↔
        writes key = some w ∧ ¬ Record.Clears w.region ⟨event, answer⟩ :=
    (and_iff_left fun ⟨now, hclear⟩ => h now _ hclear).symm
  cases event with
  | add now key' v ttl region =>
      cases answer with
      | stored =>
          have hkey : key ≠ key' := by
            rintro rfl
            exact hr ⟨⟨now, v, ttl, region⟩, rfl⟩
          rw [← hkeep nofun, ← note_record_of_ne writes (w := ⟨now, v, ttl, region⟩) (Ne.symm hkey)]
          rfl
      | _ => exact hkeep nofun
  | clearRegion now region =>
      have hclears : Record.Clears w.region ⟨.clearRegion now region, answer⟩ ↔
          w.region = region := by
        simp [Record.Clears, eq_comm]
      rw [hclears, note_clearRegion, Option.filter_eq_some_iff, decide_eq_true_eq]
  | get now key' region => exact hkeep nofun
  | evictExpired now => exact hkeep nofun

end Noting

/-- The map holds the latest writes. -/
theorem latest_eq_some_iff : latest records key = some w ↔ LatestWrite records key w := by
  induction records using List.reverseRecOn with
  | nil => exact iff_of_false nofun not_latestWrite_nil
  | append_singleton records r ih =>
      rw [latest_append_singleton]
      by_cases hr : r.Writes key
      · obtain ⟨w', rfl⟩ := hr
        rw [latestWrite_append_record_iff, note_record, Option.some_inj]
      · rw [latestWrite_append_iff hr, note_eq_some_iff _ hr, ih]

end Latest

/-- The cache shows, as far as it has not expired, what was written. -/
def Store.Shows (s : Store) (t : Instant) (writes : Writes) : Prop :=
  ∀ key : String, (s.evictExpired t).entries[key]? =
    ((writes key).map Write.entry).filter fun e => ! e.isExpired t

namespace Store.Shows

variable {s s' : Store}
variable {writes : Writes}
variable {t now : Instant}

theorem later
    (h : s.Shows t writes)
    (ht : t ≤ now) :
    s.Shows now writes := by
  intro key
  have hkey := congrArg (Option.filter fun e => ! e.isExpired now) (h key)
  rw [← getElem?_evictExpired, s.evictExpired_evictExpired ht] at hkey
  rw [hkey, Option.filter_filter]
  congr 1
  funext e
  cases hexp : e.isExpired t with
  | false => simp
  | true => simp [Entry.isExpired_of_le ht hexp]

/-- What is shown depends only on what a sweep would leave. -/
theorem congr
    (h : s.Shows t writes)
    (hlive : s'.evictExpired t = s.evictExpired t) :
    s'.Shows t writes := by
  intro key
  rw [hlive, h key]

/-- A write is shown. -/
theorem put
    (h : s.Shows now writes)
    (key : String)
    (v : Response)
    (ttl : Duration)
    (region : String) :
    (s.put key v ttl region now).Shows now
      (writes.note (Write.record ⟨now, v, ttl, region⟩ key)) := by
  intro key'
  rw [getElem?_evictExpired, getElem?_put]
  by_cases hkey : key = key'
  · subst hkey
    rw [note_record, if_pos rfl]
    rfl
  · rw [note_record_of_ne _ hkey, if_neg hkey, ← getElem?_evictExpired, h key']

/-- The region that is cleared is not shown any more, and all others are. -/
theorem clearRegion
    (h : s.Shows now writes)
    (region : String)
    (answer : Answer) :
    (s.clearRegion region).1.Shows now (writes.note ⟨.clearRegion now region, answer⟩) := by
  intro key
  have hkey := congrArg (Option.filter fun e => e.region ≠ region) (h key)
  rw [getElem?_evictExpired, Option.filter_filter] at hkey
  rw [getElem?_evictExpired, getElem?_clearRegion, Option.filter_filter]
  simp only [Bool.and_comm] at hkey ⊢
  rw [hkey, note_clearRegion]
  cases writes key with
  | none => rfl
  | some w =>
      have hsame : w.entry.region = w.region := rfl
      by_cases hregion : w.region = region <;> cases hexp : w.entry.isExpired now <;>
        simp [Option.filter_some, hsame, hregion, hexp]

/-- An event and the answer to it change what is shown and what was written alike. -/
theorem ask
    (h : s.Shows t writes)
    (hfits : s.Fits)
    {e : Event}
    (ht : t ≤ e.time) :
    (s.ask e).1.Shows e.time (writes.note ⟨e, (s.ask e).2⟩) := by
  have hnow := h.later ht
  have hasked := hfits.asked e
  generalize s.ask e = p at *
  obtain ⟨s', a⟩ := p
  dsimp only at *
  cases hasked with
  | stored _ hlive => exact (hnow.put _ _ _ _).congr hlive
  | refused _ hlive => exact hnow.congr hlive
  | found hs =>
      subst hs
      exact hnow
  | cleared hs =>
      subst hs
      exact hnow.clearRegion _ _
  | swept hs =>
      subst hs
      exact hnow.congr (s.evictExpired_evictExpired (Nat.le_refl _))

/-- After a history, the cache shows the latest writes. -/
theorem after
    {events : List Event}
    {records : List Record}
    (h : s.Shows t (latest records))
    (hfits : s.Fits)
    (horder : Ordered events)
    (hlater : ∀ e ∈ events, t ≤ e.time)
    (hnow : ∀ e ∈ events, e.time ≤ now)
    (ht : t ≤ now) :
    (s.after events).Shows now (latest (records ++ s.history events)) := by
  induction events generalizing s records t with
  | nil =>
      rw [history, List.append_nil]
      exact h.later ht
  | cons e es ih =>
      obtain ⟨hfirst, hrest⟩ := List.pairwise_cons.1 horder
      have hstep := h.ask hfits (hlater e List.mem_cons_self)
      rw [← latest_append_singleton] at hstep
      have hall := ih hstep (hfits.ask e) hrest hfirst
        (fun e' he' => hnow e' (List.mem_cons_of_mem _ he')) (hnow e List.mem_cons_self)
      rwa [List.append_assoc] at hall

/-- A read finds what is shown. -/
theorem get?_eq_some_iff
    {records : List Record}
    (h : s.Shows now (latest records))
    {key region : String}
    {v : Response} :
    s.get? key region now = some v ↔
      ∃ w, LatestWrite records key w ∧
        w.response = v ∧ w.region = region ∧ now < w.time + w.ttl := by
  rw [Store.get?_eq_some_iff, h key]
  constructor
  · rintro ⟨e, he, rfl, rfl⟩
    obtain ⟨hwrite, hlive⟩ := Option.filter_eq_some_iff.1 he
    obtain ⟨w, hw, rfl⟩ := Option.map_eq_some_iff.1 hwrite
    rw [Bool.not_eq_true', w.isExpired_entry_eq_false_iff] at hlive
    exact ⟨w, latest_eq_some_iff.1 hw, rfl, rfl, hlive⟩
  · rintro ⟨w, hw, rfl, rfl, hlive⟩
    refine ⟨w.entry, Option.filter_eq_some_iff.2 ⟨?_, ?_⟩, rfl, rfl⟩
    · exact Option.map_eq_some_iff.2 ⟨w, latest_eq_some_iff.2 hw, rfl⟩
    · rwa [Bool.not_eq_true', w.isExpired_entry_eq_false_iff]

end Store.Shows

/-- What is asked for and what is told agree with the latest writes, in the course of a history. -/
structure RefinesLatestWrites (s : Store) (events : List Event) : Prop where
  /-- A read finds the latest write under its key, if the region is the one that is asked for and
  was not cleared since, and the time of the write is not over. -/
  reads : ∀ {before later : List Event} {now : Instant} {key region : String},
    events = before ++ .get now key region :: later →
    ∀ v, (s.after before).get? key region now = some v ↔
      ∃ w, LatestWrite (s.history before) key w ∧
        w.response = v ∧ w.region = region ∧ now < w.time + w.ttl
  /-- Without the sweeps, all reads and writes are answered as with them. -/
  sweeps : uses (s.history (events.filter (! ·.isSweep))) = uses (s.history events)
  /-- After a write that was refused, all reads and writes are answered as without it. -/
  refusals : ∀ {before later : List Event} {e : Event} {error : GatewayError},
    events = before ++ e :: later →
    ((s.after before).ask e).2 = .refused error →
    uses (((s.after before).ask e).1.history later) = uses ((s.after before).history later)
  /-- Clearing a region takes its entries and no others, and tells how many were stored. -/
  clearings : ∀ {before later : List Event} {now : Instant} {region : String},
    events = before ++ .clearRegion now region :: later →
    (∀ key : String, ((s.after before).clearRegion region).1.entries[key]? =
      (s.after before).entries[key]?.filter fun e => e.region ≠ region) ∧
    (∀ key region' t, ((s.after before).clearRegion region).1.get? key region' t =
      if region' = region then none else (s.after before).get? key region' t) ∧
    ((s.after before).clearRegion region).2 =
      (s.after before).entries.toList.countP fun p => p.2.region = region

namespace Store

/-- A region that is cleared is hidden, and all others are seen as before. -/
theorem get?_clearRegion
    (s : Store)
    (key region region' : String)
    (t : Instant) :
    (s.clearRegion region).1.get? key region' t =
      if region' = region then none else s.get? key region' t := by
  unfold get?
  rw [getElem?_clearRegion]
  cases s.entries[key]? with
  | none => exact (ite_self _).symm
  | some e =>
      by_cases hcleared : e.region = region
      · subst hcleared
        by_cases hasked : region' = e.region
        · simp [hasked, Option.filter_some]
        · simp [hasked, Ne.symm hasked, Option.filter_some]
      · by_cases hasked : region' = region
        · simp [hasked, hcleared, Option.filter_some]
        · simp [hasked, hcleared, Option.filter_some]

/-- A cache that was just opened shows that nothing was written. -/
theorem shows_new (capacity : Nat) : Shows { capacity } 0 (latest []) := by
  intro key
  rw [getElem?_evictExpired, Std.ExtTreeMap.getElem?_empty]
  rfl

end Store

/--
The cache is a map of the latest writes, whatever its capacity is and whatever is asked of it.
-/
theorem refines_latest_writes
    (capacity : Nat)
    {events : List Event}
    (horder : Ordered events) :
    RefinesLatestWrites { capacity } events := by
  have hnew := Store.fits_new capacity
  have halike : Store.Alike 0 { capacity } { capacity } := ⟨hnew, hnew, rfl⟩
  have hstart : ∀ e ∈ events, 0 ≤ e.time := fun e _ => Nat.zero_le _
  constructor
  · rintro before later now key region rfl v
    obtain ⟨hbefore, _, hcross⟩ := List.pairwise_append.1 horder
    have hpast : ∀ e ∈ before, e.time ≤ now := fun e he => hcross e he _ List.mem_cons_self
    have hshows := (Store.shows_new capacity).after hnew hbefore
      (fun e _ => Nat.zero_le _) hpast (Nat.zero_le _)
    exact hshows.get?_eq_some_iff
  · exact (halike.uses_history_eq horder hstart).symm
  · rintro before later e error rfl hrefused
    obtain ⟨_, hlater, _⟩ := List.pairwise_append.1 horder
    obtain ⟨hfirst, hrest⟩ := List.pairwise_cons.1 hlater
    exact ((hnew.after before).alike_of_refused hrefused).uses_history hrest hfirst
  · rintro before later now region rfl
    exact ⟨Store.getElem?_clearRegion _ region, fun key region' t => Store.get?_clearRegion ..,
      Store.clearRegion_snd _ region⟩

section Instances

/-- An answer with this body. -/
def answerOf (body : String) : Response := ⟨200, {}, Bytes.ofText body⟩

/--
A cache with room for one answer: a second key is refused, the first one moves to another region,
which is cleared when its time is over, and then the second key is stored in its place.
-/
def throughFullCache : List Event :=
  [.add 0 "a" (answerOf "1") 100 "r", .add 10 "b" (answerOf "2") 50 "r",
    .add 20 "a" (answerOf "3") 100 "q", .get 30 "a" "r", .get 119 "a" "q", .evictExpired 119,
    .get 120 "a" "q", .add 120 "b" (answerOf "4") 10 "q", .get 125 "b" "q",
    .clearRegion 126 "q", .get 127 "b" "q"]

/--
The answer that moved is found in its new region as the latest write, up to the last instant of its
time; and clearing this region takes the answer of the second key, which was stored after that.
-/
theorem refines_latest_writes_through_full_cache :
    Ordered throughFullCache ∧
    (∃ v w, (({ capacity := 1 } : Store).after (throughFullCache.take 4)).get? "a" "q" 119 = some v ∧
      LatestWrite (({ capacity := 1 } : Store).history (throughFullCache.take 4)) "a" w ∧
      w.response = v ∧ w.region = "q" ∧ 119 < w.time + w.ttl) ∧
    ((({ capacity := 1 } : Store).after (throughFullCache.take 9)).clearRegion "q").2 = 1 := by
  have horder : Ordered throughFullCache := by decide
  have h := refines_latest_writes 1 horder
  have hfound :
      ((({ capacity := 1 } : Store).after (throughFullCache.take 4)).get? "a" "q" 119).isSome := by
    decide +kernel
  obtain ⟨v, hv⟩ := Option.isSome_iff_exists.1 hfound
  obtain ⟨w, hw⟩ := (h.reads (throughFullCache.take_append_drop 4).symm v).1 hv
  refine ⟨horder, ⟨v, w, hv, hw⟩, ?_⟩
  rw [(h.clearings (throughFullCache.take_append_drop 9).symm).2.2]
  decide +kernel

end Instances

end Cache
end ApiGateway
