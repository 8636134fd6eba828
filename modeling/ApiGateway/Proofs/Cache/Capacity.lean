import ApiGateway.Proofs.Cache.History

/-!
# The capacity of the output cache

A cache never holds more answers than it has room for, whatever is asked of it and at whatever
instants. An answer is refused just when its key is not stored and as many answers as there may be
have not expired (`Store.Refuses`); the refusal then drops what has expired and nothing else.

Main statement: `keeps_capacity`.
-/

namespace ApiGateway
namespace Cache
namespace Store

variable (s : Store)

def liveCount (now : Instant) : Nat :=
  s.entries.toList.countP fun p => ! p.2.isExpired now

/-- A sweep leaves as many entries as have not expired. -/
theorem size_evictExpired (now : Instant) : (s.evictExpired now).size = s.liveCount now := by
  rw [size, evictExpired, ← Std.ExtTreeMap.length_toList, Std.ExtTreeMap.toList_filter, liveCount,
    List.countP_eq_length_filter]

theorem liveCount_le_size (now : Instant) : s.liveCount now ≤ s.size := by
  rw [← size_evictExpired]
  exact s.size_evictExpired_le now

/-- There is no room for an answer: its key is not stored, and what has not expired takes it all. -/
def Refuses (key : String) (now : Instant) : Prop :=
  s.entries[key]? = none ∧ s.capacity ≤ s.liveCount now

section Adding

variable {s}
variable {key : String}
variable {now : Instant}

/-- Where there is no room, a sweep is all that is done. -/
theorem Refuses.add_eq
    (h : s.Refuses key now)
    (r : Response)
    (ttl : Duration)
    (region : String) :
    s.add key r ttl region now = (s.evictExpired now, .error s.full) := by
  obtain ⟨hkey, hfull⟩ := h
  have hsize : ¬ s.size < s.capacity := Nat.not_lt.2 (Nat.le_trans hfull (s.liveCount_le_size now))
  have hnew : s.entries.contains key = false := by
    rw [Std.ExtTreeMap.contains_eq_isSome_getElem?, hkey]
    rfl
  have hswept : ¬ (s.evictExpired now).size < s.capacity := by
    rwa [size_evictExpired, Nat.not_lt]
  unfold add
  rw [if_neg (by simp [hsize, hnew])]
  exact if_neg hswept

/-- An answer that is refused has found no room. -/
theorem refuses_of_add
    {r : Response}
    {ttl : Duration}
    {region : String}
    {error : GatewayError}
    (h : (s.add key r ttl region now).2 = .error error) :
    s.Refuses key now := by
  unfold add at h
  split at h
  · cases h
  · rename_i hroom
    dsimp only at h
    split at h
    · cases h
    · rename_i hswept
      rw [Bool.or_eq_true, not_or, Std.ExtTreeMap.contains_eq_isSome_getElem?,
        Option.not_isSome_iff_eq_none] at hroom
      rw [size_evictExpired, Nat.not_lt] at hswept
      exact ⟨hroom.2, hswept⟩

theorem add_eq_error_iff
    {r : Response}
    {ttl : Duration}
    {region : String}
    {error : GatewayError} :
    (s.add key r ttl region now).2 = .error error ↔ s.Refuses key now ∧ error = s.full := by
  constructor
  · intro h
    have hrefuses := refuses_of_add h
    rw [hrefuses.add_eq] at h
    exact ⟨hrefuses, (Except.error.inj h).symm⟩
  · rintro ⟨hrefuses, rfl⟩
    rw [hrefuses.add_eq]

end Adding

theorem capacity_ask (e : Event) : (s.ask e).1.capacity = s.capacity := by
  cases e with
  | add now key r ttl region =>
      have hadd : (s.add key r ttl region now).1.capacity = s.capacity := by
        unfold add
        split
        · rfl
        · dsimp only
          split <;> rfl
      rw [ask, ← hadd]
      cases s.add key r ttl region now with
      | mk s' result => cases result <;> rfl
  | get now key region => rfl
  | clearRegion now region => rfl
  | evictExpired now => rfl

theorem capacity_after (events : List Event) : (s.after events).capacity = s.capacity := by
  induction events generalizing s with
  | nil => rfl
  | cons e es ih => exact (ih (s.ask e).1).trans (s.capacity_ask e)

/-- No more is stored than there may be, and nothing is refused or dropped without need. -/
structure KeepsTo (capacity : Nat) : Prop where
  size_le : s.size ≤ capacity
  /-- An answer is refused just when its key is not stored, expired or not, and as many answers as
  there may be have not expired. -/
  refused_iff : ∀ {now : Instant} {key region : String} {r : Response} {ttl : Duration}
    {error : GatewayError},
    (s.add key r ttl region now).2 = .error error ↔
      error = .cacheUnavailable s!"cache full ({capacity} entries)" ∧
      s.entries[key]? = none ∧
      capacity ≤ s.entries.toList.countP fun p => ! p.2.isExpired now
  /-- A refusal drops what has expired, and leaves everything else. -/
  getElem?_of_refused : ∀ {now : Instant} {key region : String} {r : Response} {ttl : Duration}
    {error : GatewayError},
    (s.add key r ttl region now).2 = .error error →
    ∀ key' : String, (s.add key r ttl region now).1.entries[key']? =
      s.entries[key']?.filter fun e => ! e.isExpired now

variable {s}

theorem Fits.keepsTo (h : s.Fits) : s.KeepsTo s.capacity where
  size_le := h
  refused_iff := add_eq_error_iff.trans and_comm
  getElem?_of_refused := by
    intro now key region r ttl error herror key'
    rw [(refuses_of_add herror).add_eq, getElem?_evictExpired]

end Store

/-- A cache keeps to its capacity, whatever it is and whatever is asked of it at whatever times. -/
theorem keeps_capacity
    (capacity : Nat)
    (events : List Event) :
    (({ capacity } : Store).after events).KeepsTo capacity := by
  have hkeeps := ((Store.fits_new capacity).after events).keepsTo
  rwa [Store.capacity_after] at hkeeps

/-- Where there is no room at all, every answer is refused. -/
example :
    (({ capacity := 0 } : Store).add "a" ⟨200, {}, []⟩ 5 "r" 0).2 =
      .error (.cacheUnavailable "cache full (0 entries)") := by
  rfl

end Cache
end ApiGateway
