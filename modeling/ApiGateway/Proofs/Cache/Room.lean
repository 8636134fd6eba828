import ApiGateway.Cache.Store

/-!
# Room in the output cache

An expired entry takes room but is never given out, so what matters of a cache at an instant is
what a sweep would leave of it (`Store.evictExpired`). Whether an answer can be stored depends on
nothing else: `Store.add_cases` lists the outcomes, whichever way the room was found.
-/

namespace ApiGateway
namespace Cache

/-- What has expired stays expired. -/
theorem Entry.isExpired_of_le
    {e : Entry}
    {t now : Instant}
    (ht : t ≤ now)
    (h : e.isExpired t = true) :
    e.isExpired now = true :=
  decide_eq_true (Nat.le_trans (of_decide_eq_true h) ht)

namespace Store

variable (s : Store)

section Expiry

variable {t now : Instant}

theorem getElem?_evictExpired (t : Instant) (key : String) :
    (s.evictExpired t).entries[key]? = s.entries[key]?.filter fun e => ! e.isExpired t := by
  rw [evictExpired, Std.ExtTreeMap.getElem?_filter']

/-- A store is its capacity and what is under each key. -/
theorem ext_getElem?
    {s s' : Store}
    (hcapacity : s.capacity = s'.capacity)
    (hentries : ∀ key : String, s.entries[key]? = s'.entries[key]?) :
    s = s' := by
  cases s
  cases s'
  rw [mk.injEq]
  exact ⟨hcapacity, Std.ExtTreeMap.ext_getElem? hentries⟩

/-- A sweep leaves nothing that an earlier one would have taken. -/
theorem evictExpired_evictExpired (ht : t ≤ now) :
    (s.evictExpired t).evictExpired now = s.evictExpired now := by
  refine ext_getElem? rfl fun key => ?_
  simp only [getElem?_evictExpired, Option.filter_filter]
  congr 1
  funext e
  cases h : e.isExpired t with
  | false => simp
  | true => simp [Entry.isExpired_of_le ht h]

/-- What is given out is what a sweep at this instant would leave. -/
theorem get?_eq_some_iff
    {key region : String}
    {v : Response} :
    s.get? key region now = some v ↔
      ∃ e, (s.evictExpired now).entries[key]? = some e ∧ e.region = region ∧ e.response = v := by
  rw [get?, getElem?_evictExpired]
  cases s.entries[key]? with
  | none => simp
  | some e => cases h : e.isExpired now <;> simp [h, Option.filter_some]

theorem size_evictExpired_le (t : Instant) : (s.evictExpired t).size ≤ s.size :=
  Std.ExtTreeMap.size_filter_le_size

/-- A sweep that takes an entry makes room. -/
theorem size_evictExpired_lt
    {key : String}
    (hstored : s.entries.contains key = true)
    (hgone : ¬ (s.evictExpired t).entries.contains key = true) :
    (s.evictExpired t).size < s.size := by
  refine Nat.lt_of_le_of_ne (s.size_evictExpired_le t) fun hsize => hgone ?_
  have hall : (s.evictExpired t).entries = s.entries :=
    Std.ExtTreeMap.filter_eq_self_iff.2 (Std.ExtTreeMap.size_filter_eq_size_iff.1 hsize)
  rw [hall]
  exact hstored

end Expiry

section Writing

variable {key region : String}
variable {r : Response}
variable {ttl : Duration}
variable {now : Instant}

theorem getElem?_put (key' : String) :
    (s.put key r ttl region now).entries[key']? =
      if key = key' then some ⟨r, region, now + ttl⟩ else s.entries[key']? := by
  simp only [put, Std.ExtTreeMap.getElem?_insert, Std.LawfulEqCmp.compare_eq_iff_eq]

/-- What a sweep leaves of a store after a write is settled by what it leaves before. -/
theorem evictExpired_put_evictExpired :
    ((s.evictExpired now).put key r ttl region now).evictExpired now =
      (s.put key r ttl region now).evictExpired now := by
  refine ext_getElem? rfl fun key' => ?_
  rw [getElem?_evictExpired, getElem?_evictExpired, getElem?_put, getElem?_put]
  split
  · rfl
  · rw [← getElem?_evictExpired, s.evictExpired_evictExpired (Nat.le_refl _), getElem?_evictExpired]

/-- A write takes no room that was not there, if there was some or the key is stored. -/
theorem size_put_le
    (hsize : s.size ≤ s.capacity)
    (h : s.size < s.capacity ∨ s.entries.contains key = true) :
    (s.put key r ttl region now).size ≤ s.capacity := by
  unfold size put
  rw [Std.ExtTreeMap.size_insert]
  unfold size at h hsize
  split <;> rename_i hkey
  · exact hsize
  · exact h.resolve_right hkey

/-- There is room for an answer under a key, once what has expired is dropped. -/
def HasRoom (key : String) (now : Instant) : Prop :=
  (s.evictExpired now).size < s.capacity ∨ (s.evictExpired now).entries.contains key = true

/-- There is room if there is some before anything is dropped. -/
theorem hasRoom_of_room
    (hsize : s.size ≤ s.capacity)
    (h : s.size < s.capacity ∨ s.entries.contains key = true) :
    s.HasRoom key now := by
  rcases h with hless | hstored
  · exact .inl (Nat.lt_of_le_of_lt (s.size_evictExpired_le now) hless)
  · by_cases hleft : (s.evictExpired now).entries.contains key = true
    · exact .inr hleft
    · exact .inl (Nat.lt_of_lt_of_le (s.size_evictExpired_lt hstored hleft) hsize)

/--
The outcomes of an attempt to store an answer: it is stored if there is room among what has not
expired, maybe after a sweep; else the sweep is all that is done.
-/
theorem add_cases
    (hsize : s.size ≤ s.capacity)
    (key : String)
    (r : Response)
    (ttl : Duration)
    (region : String)
    (now : Instant) :
    (s.HasRoom key now ∧
      ∃ s', (s' = s ∨ s' = s.evictExpired now) ∧
        (s'.size < s'.capacity ∨ s'.entries.contains key = true) ∧
        s.add key r ttl region now = (s'.put key r ttl region now, .ok ())) ∨
    (¬ s.HasRoom key now ∧
      s.add key r ttl region now = (s.evictExpired now, .error (s.evictExpired now).full)) := by
  unfold add
  by_cases hroom : s.size < s.capacity ∨ s.entries.contains key = true
  · refine .inl ⟨s.hasRoom_of_room hsize hroom, s, .inl rfl, hroom, if_pos ?_⟩
    simpa using hroom
  · rw [if_neg (by simpa using hroom)]
    obtain ⟨_, hkey⟩ := not_or.1 hroom
    by_cases hswept : (s.evictExpired now).size < s.capacity
    · exact .inl ⟨.inl hswept, _, .inr rfl, .inl hswept, if_pos hswept⟩
    · refine .inr ⟨?_, if_neg hswept⟩
      rintro (hless | hleft)
      · exact hswept hless
      · exact hkey (Std.ExtTreeMap.contains_of_contains_filter hleft)

/--
After an attempt to store an answer, what is under a key was stored by it or was there before.
-/
theorem getElem?_add_cases
    {key' : String}
    {e : Entry}
    (h : (s.add key r ttl region now).1.entries[key']? = some e) :
    (key' = key ∧ e = ⟨r, region, now + ttl⟩) ∨ (key' ≠ key ∧ s.entries[key']? = some e) := by
  have hput {s' : Store} (hkept : ∀ e, s'.entries[key']? = some e → s.entries[key']? = some e)
      (h : (s'.put key r ttl region now).entries[key']? = some e) :
      (key' = key ∧ e = ⟨r, region, now + ttl⟩) ∨ (key' ≠ key ∧ s.entries[key']? = some e) := by
    rw [getElem?_put] at h
    split at h
    · exact .inl ⟨Eq.symm ‹_›, (Option.some.inj h).symm⟩
    · exact .inr ⟨Ne.symm ‹_›, hkept e h⟩
  have hswept (e : Entry) (h : (s.evictExpired now).entries[key']? = some e) :
      s.entries[key']? = some e := by
    rw [getElem?_evictExpired] at h
    exact (Option.filter_eq_some_iff.1 h).1
  unfold add at h
  split at h
  · exact hput (fun _ h => h) h
  · rename_i hroom
    dsimp only at h
    split at h
    · exact hput hswept h
    · refine .inr ⟨?_, hswept e h⟩
      rintro rfl
      -- What is stored under the key itself would have been replaced.
      have hstored := hswept e h
      rw [Bool.or_eq_true, not_or, Std.ExtTreeMap.contains_eq_isSome_getElem?, hstored] at hroom
      exact hroom.2 rfl

end Writing

section Clearing

variable (region : String)

theorem getElem?_clearRegion (key : String) :
    (s.clearRegion region).1.entries[key]? =
      s.entries[key]?.filter fun e => e.region ≠ region := by
  rw [clearRegion, Std.ExtTreeMap.getElem?_filter']

/-- Clearing a region tells the number of its entries, expired or not. -/
theorem clearRegion_snd :
    (s.clearRegion region).2 = s.entries.toList.countP fun p => p.2.region = region := by
  have hkept : (s.clearRegion region).1.size =
      s.entries.toList.countP fun p => p.2.region ≠ region := by
    rw [size, clearRegion, ← Std.ExtTreeMap.length_toList, Std.ExtTreeMap.toList_filter,
      List.countP_eq_length_filter]
  have hall := s.entries.toList.length_eq_countP_add_countP fun p => p.2.region = region
  simp only [Std.ExtTreeMap.length_toList, decide_eq_true_eq] at hall
  calc (s.clearRegion region).2
    _ = s.size - (s.clearRegion region).1.size := rfl
    _ = _ := by rw [hkept, size, hall, Nat.add_sub_cancel]

end Clearing

end Store
end Cache
end ApiGateway
