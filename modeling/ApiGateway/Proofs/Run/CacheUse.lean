import ApiGateway.Proofs.Cache.LatestWrites
import ApiGateway.Proofs.Run.Books

/-!
# Use of the cache by runs

A run writes at one stage into the output cache, if it has a successful answer and the key under
which none was found before. All else that it does leaves the cache as it is.
-/

namespace ApiGateway

namespace Cache.Store

/-- A cache after an attempt to write into it, if there is one. -/
def written (s : Store) : Option (String × Write) → Store
  | none => s
  | some (key, w) => (s.add key w.response w.ttl w.region w.time).1

/-- A cache after a region of it was cleared, if one was. -/
def cleared (s : Store) : Option String → Store
  | none => s
  | some region => (s.clearRegion region).1

variable {s : Store}
variable {key : String}
variable {e : Entry}

/-- What is under a key was written by the attempt, or was there before. -/
theorem getElem?_written_cases
    {o : Option (String × Write)}
    (h : (s.written o).entries[key]? = some e) :
    (∃ w, o = some (key, w) ∧ w.entry = e) ∨
    ((∀ w, o ≠ some (key, w)) ∧ s.entries[key]? = some e) := by
  cases o with
  | none => exact .inr ⟨nofun, h⟩
  | some kw =>
      obtain ⟨key', w⟩ := kw
      rcases s.getElem?_add_cases h with ⟨rfl, rfl⟩ | ⟨hne, h⟩
      · exact .inl ⟨w, rfl, rfl⟩
      · refine .inr ⟨fun w' heq => ?_, h⟩
        cases heq
        exact hne rfl

/-- What is left is what does not belong to the region that was cleared. -/
theorem getElem?_cleared_iff
    {o : Option String} :
    (s.cleared o).entries[key]? = some e ↔ o ≠ some e.region ∧ s.entries[key]? = some e := by
  cases o with
  | none => exact (and_iff_right nofun).symm
  | some region =>
      rw [cleared, getElem?_clearRegion, Option.filter_eq_some_iff, and_comm, decide_eq_true_eq,
        ne_comm, Ne, Ne, Option.some.injEq]

end Cache.Store

/-- What an exchange writes into the cache, and under which key. -/
def Exchange.writes? (x : Exchange) (now : Instant) : Option (String × Cache.Write) :=
  match x.resolved.bind (·.route.cache), x.cacheKey, x.response with
  | some p, some key, some response =>
      if Status.isSuccess response.status then some (key, ⟨now, response, p.ttl, p.region⟩)
      else none
  | _, _, _ => none

theorem Exchange.writes?_eq_some_iff
    {x : Exchange}
    {now : Instant}
    {key : String}
    {w : Cache.Write} :
    x.writes? now = some (key, w) ↔
      ∃ found p response,
        x.resolved = some found ∧
        found.route.cache = some p ∧
        x.cacheKey = some key ∧
        x.response = some response ∧
        Status.isSuccess response.status = true ∧
        w = ⟨now, response, p.ttl, p.region⟩ := by
  unfold writes?
  constructor
  · intro h
    split at h
    · rename_i p key' response hp hkey hresponse
      obtain ⟨found, hfound, hp⟩ := Option.bind_eq_some_iff.1 hp
      split at h
      · obtain ⟨rfl, rfl⟩ := Prod.mk.inj (Option.some.inj h)
        exact ⟨found, p, response, hfound, hp, hkey, hresponse, ‹_›, rfl⟩
      · cases h
    · cases h
  · rintro ⟨found, p, response, hfound, hp, hkey, hresponse, hsuccess, rfl⟩
    simp only [hfound, Option.bind_some, hp, hkey, hresponse, hsuccess, if_true]

namespace Stage

variable (s : Surroundings)
variable (g : Gateway)
variable (x : Exchange)

/-- The one stage that writes writes what the exchange has for the cache. -/
theorem cache_store : (store s g x).gateway.cache = g.cache.written (x.writes? s.now) := by
  unfold store Exchange.writes? Passage.onRoute Exchange.route
  cases hx : x.resolved with
  | none => rfl
  | some r =>
      dsimp only [Option.bind_some]
      cases r.route.cache with
      | none => rfl
      | some p =>
          cases x.cacheKey with
          | none => rfl
          | some key =>
              cases x.response with
              | none => rfl
              | some response =>
                  cases hsuccess : Status.isSuccess response.status <;>
                    simp only [hsuccess] <;>
                    rfl

end Stage

namespace Run

/-- What a run writes into the cache at an event, and under which key. -/
def writesAt? (r : Run) : Event → Option (String × Cache.Write)
  | .pass s =>
      match r.phase with
      | .passing (.cacheStore :: _) => r.exchange.writes? s.now
      | _ => none
  | _ => none

/-- A run that writes is about to store its answer. -/
theorem exists_of_writesAt?_eq_some
    {r : Run}
    {e : Event}
    {w : String × Cache.Write}
    (h : r.writesAt? e = some w) :
    ∃ s x rest,
      e = .pass s ∧
      r = ⟨x, .passing (.cacheStore :: rest)⟩ ∧
      x.writes? s.now = some w := by
  unfold writesAt? at h
  split at h
  · rename_i s
    split at h
    · rename_i rest hphase
      exact ⟨s, r.exchange, rest, rfl, by rw [← hphase], h⟩
    · cases h
  · cases h

/-- All that a run does with the cache at an event is to write what it has for it. -/
theorem cache_meet (g : Gateway) (r : Run) (e : Event) :
    (r.meet g e).1.cache = g.cache.written (r.writesAt? e) := by
  cases hwrites : r.writesAt? e with
  | some w =>
      obtain ⟨s, x, rest, rfl, rfl, hx⟩ := exists_of_writesAt?_eq_some hwrites
      refine (sameBooks_after s.now rest (Stage.store s g x)).cache.trans ?_
      rw [← hx]
      exact Stage.cache_store s g x
  | none =>
      rcases sameBooks_meet g r e with hbooks | ⟨s, x, stage, rest, rfl, rfl, hstage, hbooks⟩
      · exact hbooks.cache
      · refine hbooks.cache.trans ?_
        simp only [List.mem_cons, List.not_mem_nil, or_false] at hstage
        rcases hstage with rfl | rfl
        · exact (Stage.entryFrame_limitRate s g x).untouched.cache
        · have hnone : x.writes? s.now = none := hwrites
          exact (Stage.cache_store s g x).trans (by rw [hnone])

end Run
end ApiGateway
