import ApiGateway.Proofs.Cache.Regions
import ApiGateway.Proofs.Traffic.Runs

/-!
# Use of the cache in traffic

Requests write into the cache, operators clear its regions, and sweeps and full caches drop what has
expired. However these take turns, what the cache holds under a key was written by a request, and
since then the region was not cleared and nothing else was written under the key
(`exists_write_of_getElem?`).
-/

namespace ApiGateway
namespace Traffic

/-- What a run writes into the cache, unless the registry was asked for its lease. -/
def writesOf (t : Traffic) (id : Nat) (r : Run) (e : Run.Event) : Option (String × Cache.Write) :=
  match e, t.begun id with
  | .pass _, some _ => none
  | e, _ => r.writesAt? e

/-- What the requests write into the cache at an event, and under which key. -/
def writes? (t : Traffic) : Event → Option (String × Cache.Write)
  | .meet id e => (t.pending? id).bind fun r => t.writesOf id r e
  | _ => none

/-- Whatever is written is what a request has to store that is about to do so. -/
theorem exists_of_writes?_eq_some
    {t : Traffic}
    {e : Event}
    {w : String × Cache.Write}
    (h : t.writes? e = some w) :
    ∃ id s x rest,
      e = .meet id (.pass s) ∧
      t.pending? id = some ⟨x, .passing (.cacheStore :: rest)⟩ ∧
      x.writes? s.now = some w := by
  cases e with
  | meet id e =>
      obtain ⟨r, hr, h⟩ := Option.bind_eq_some_iff.1 h
      have hwrites : r.writesAt? e = some w := by
        unfold writesOf at h
        split at h
        · cases h
        · exact h
      obtain ⟨s, x, rest, rfl, rfl, hx⟩ := Run.exists_of_writesAt?_eq_some hwrites
      exact ⟨id, s, x, rest, rfl, hr, hx⟩
  | _ => cases h

/-- The region that an operator clears at an event. -/
def Event.clears? : Event → Option String
  | .administer _ method path => if method = .delete then Gateway.regionOfPath? path else none
  | _ => none

/-- In the course of events, nothing is written under a key, and a region is not cleared. -/
def Undisturbed (t : Traffic) (key region : String) (events : List Event) : Prop :=
  ∀ before e later, events = before ++ e :: later →
    (∀ w, (t.after before).writes? e ≠ some (key, w)) ∧ e.clears? ≠ some region

theorem getElem?_sweep
    {g : Gateway}
    {before now : Instant}
    {key : String}
    {entry : Cache.Entry}
    (h : (g.sweep before now).cache.entries[key]? = some entry) :
    g.cache.entries[key]? = some entry := by
  unfold Gateway.sweep at h
  dsimp only at h
  split at h
  · rw [Cache.Store.getElem?_evictExpired] at h
    exact (Option.filter_eq_some_iff.1 h).1
  · exact h

variable {t : Traffic}
variable {key : String}
variable {entry : Cache.Entry}

/-- A run writes what it has for the cache, and does nothing else with it. -/
theorem cache_turn (id : Nat) (r : Run) (e : Run.Event) :
    (t.turn id r e).gateway.cache = t.gateway.cache.written (t.writesOf id r e) := by
  cases e with
  | pass s =>
      cases hbegun : t.begun id with
      | none =>
          simp only [turn, writesOf, hbegun]
          exact Run.cache_meet t.gateway r (.pass s)
      | some p =>
          simp only [turn, writesOf, hbegun]
          exact (Run.sameBooks_endLease s t.gateway r p).cache
  | answer now a => exact Run.cache_meet t.gateway r (.answer now a)
  | expire now => exact Run.cache_meet t.gateway r (.expire now)

/-- Beside sweeps, what happens to the cache is that something is written or a region is cleared. -/
theorem cache_meet
    {e : Event}
    (he : ∀ before now, e ≠ .sweep before now) :
    (t.meet e).gateway.cache = (t.gateway.cache.written (t.writes? e)).cleared e.clears? := by
  cases e with
  | arrive request peer requestId now => rfl
  | beginLease id now =>
      cases hr : t.pending? id with
      | none =>
          simp only [meet, hr]
          rfl
      | some r =>
          simp only [meet, hr, ask]
          split
          · exact (Run.sameBooks_beginLease? ‹_›).cache
          · rfl
  | meet id e =>
      cases hr : t.pending? id with
      | none =>
          simp only [meet, writes?, hr]
          rfl
      | some r =>
          simp only [meet, writes?, hr]
          exact cache_turn id r e
  | abandon id now =>
      cases hr : t.pending? id with
      | none =>
          simp only [meet, hr]
          rfl
      | some r =>
          simp only [meet, hr]
          exact (Run.sameBooks_abandon now t.gateway r).cache
  | reload config => exact (Gateway.SameBooks.reload t.gateway config).cache
  | prepare config => exact (Gateway.SameBooks.prepare t.gateway config).cache
  | putTable table => rfl
  | putConfig config => rfl
  | resetBalancers directory => rfl
  | clearBreakers => rfl
  | sweep before now => exact absurd rfl (he before now)
  | administer exposition method path => exact t.gateway.cache_administer exposition method path

/-- What the cache holds after an event was written at it, or was there before. -/
theorem getElem?_meet_cases
    {e : Event}
    (h : (t.meet e).gateway.cache.entries[key]? = some entry) :
    (∃ w, t.writes? e = some (key, w) ∧ w.entry = entry) ∨
    ((∀ w, t.writes? e ≠ some (key, w)) ∧
      e.clears? ≠ some entry.region ∧
      t.gateway.cache.entries[key]? = some entry) := by
  by_cases he : ∃ before now, e = .sweep before now
  · obtain ⟨before, now, rfl⟩ := he
    exact .inr ⟨nofun, nofun, getElem?_sweep h⟩
  · rw [cache_meet fun before now heq => he ⟨before, now, heq⟩] at h
    obtain ⟨hclears, h⟩ := Cache.Store.getElem?_cleared_iff.1 h
    rcases Cache.Store.getElem?_written_cases h with hnew | ⟨hwrites, hold⟩
    · exact .inl hnew
    · exact .inr ⟨hwrites, hclears, hold⟩

/-- One more event that does not disturb. -/
theorem Undisturbed.append
    {region : String}
    {events : List Event}
    {e : Event}
    (h : t.Undisturbed key region events)
    (hwrites : ∀ w, (t.after events).writes? e ≠ some (key, w))
    (hclears : e.clears? ≠ some region) :
    t.Undisturbed key region (events ++ [e]) := by
  intro before e' later hevents
  rcases Cache.append_singleton_eq_append_cons_iff.1 hevents with
    ⟨rfl, rfl, _⟩ | ⟨between, hevents, _⟩
  · exact ⟨hwrites, hclears⟩
  · exact h before e' between hevents

/-- What the cache holds was written at some event, and nothing has disturbed it since. -/
theorem exists_write_of_getElem?
    {events : List Event}
    (hempty : t.gateway.cache.entries = ∅)
    (h : (t.after events).gateway.cache.entries[key]? = some entry) :
    ∃ before e between w,
      events = before ++ e :: between ∧
      (t.after before).writes? e = some (key, w) ∧
      w.entry = entry ∧
      (t.after (before ++ [e])).gateway.cache.entries[key]? = some entry ∧
      (t.after (before ++ [e])).Undisturbed key entry.region between := by
  induction events using List.reverseRecOn with
  | nil =>
      rw [after, List.foldl_nil, hempty, Std.ExtTreeMap.getElem?_empty] at h
      cases h
  | append_singleton events e ih =>
      have hmeet := h
      rw [after_append_singleton] at hmeet
      rcases getElem?_meet_cases hmeet with ⟨w, hw, hentry⟩ | ⟨hwrites, hclears, hold⟩
      · refine ⟨events, e, [], w, rfl, hw, hentry, h, ?_⟩
        intro before e' later hnil
        exact absurd hnil.symm (List.append_ne_nil_of_right_ne_nil _ (List.cons_ne_nil _ _))
      · obtain ⟨before, e', between, w, rfl, hw, hentry, hkept, hundisturbed⟩ := ih hold
        refine ⟨before, e', between ++ [e], w, by rw [List.append_assoc, List.cons_append], hw,
          hentry, hkept, hundisturbed.append ?_ hclears⟩
        rwa [← after_append, List.append_assoc, List.singleton_append]

end Traffic
end ApiGateway
