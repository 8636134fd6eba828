import ApiGateway.Proofs.RateLimit.Sweeps

/-!
# What a sweep leaves

A sweep first drops the counters whose time is over, and then, if more are left than the bound, as
many as there are too many, from those whose window closes first. What the two passes drop together
comes to a close before all that they leave.

Main statement: `leaves_latest`. Nothing of it hangs on the order in which counters whose windows
close together are dropped (`Limiter.Queue`).
-/

namespace ApiGateway
namespace RateLimit
namespace Limiter

section Erasing

variable {counters : Std.ExtTreeMap String Counter compare}
variable {keys : List String}

/-- Keys that differ and are all there are as many counters. -/
theorem size_foldl_erase
    (hdistinct : keys.Nodup)
    (hmem : ∀ k, k ∈ keys → k ∈ counters) :
    (keys.foldl (fun m k => m.erase k) counters).size = counters.size - keys.length := by
  induction keys generalizing counters with
  | nil => simp
  | cons k ks ih =>
      obtain ⟨hnotin, hdistinct⟩ := List.nodup_cons.1 hdistinct
      have hk : counters.contains k = true :=
        Std.ExtTreeMap.contains_iff_mem.2 (hmem k List.mem_cons_self)
      have hrest : ∀ k', k' ∈ ks → k' ∈ counters.erase k := by
        intro k' hk'
        refine Std.ExtTreeMap.mem_erase.2 ⟨?_, hmem k' (List.mem_cons_of_mem _ hk')⟩
        rw [ne_eq, Std.LawfulEqCmp.compare_eq_iff_eq]
        rintro rfl
        exact hnotin hk'
      rw [List.foldl_cons, ih hdistinct hrest, Std.ExtTreeMap.size_erase, if_pos hk,
        List.length_cons]
      omega

end Erasing

/-- All counters in a list, with their keys, those whose window closes first in front. -/
structure Queue (l : Limiter) (queue : List (String × Counter)) : Prop where
  mem_iff : ∀ key c, (key, c) ∈ queue ↔ l.counters[key]? = some c
  distinct : (queue.map (·.1)).Nodup
  length : queue.length = l.size
  ordered : queue.Pairwise fun a b => a.2.windowEndMicros ≤ b.2.windowEndMicros

/-- A limiter without the first counters of a list. -/
def without (l : Limiter) (queue : List (String × Counter)) (n : Nat) : Limiter :=
  ⟨((queue.take n).map (·.1)).foldl (fun m k => m.erase k) l.counters⟩

namespace Queue

variable {l : Limiter}
variable {queue : List (String × Counter)}
variable {key : String}
variable {c : Counter}

/-- A key has one counter in the list. -/
theorem eq_of_mem
    (h : l.Queue queue)
    {c' : Counter}
    (hc : (key, c) ∈ queue)
    (hc' : (key, c') ∈ queue) :
    c = c' := by
  rw [h.mem_iff] at hc hc'
  exact Option.some.inj (hc.symm.trans hc')

/-- What was in front is dropped. -/
theorem mem_take_iff
    (h : l.Queue queue)
    (n : Nat)
    (hc : l.counters[key]? = some c) :
    (l.without queue n).counters[key]? = none ↔ (key, c) ∈ queue.take n := by
  have hmem : key ∈ (queue.take n).map (·.1) ↔ (key, c) ∈ queue.take n := by
    constructor
    · intro hkey
      obtain ⟨⟨k, c'⟩, hentry, rfl⟩ := List.mem_map.1 hkey
      rw [h.eq_of_mem ((h.mem_iff _ _).2 hc) (List.mem_of_mem_take hentry)]
      exact hentry
    · exact fun hentry => List.mem_map_of_mem hentry
  rw [without, getElem?_foldl_erase, hc, ← hmem]
  by_cases hkey : key ∈ (queue.take n).map (·.1)
  · simp only [hkey, if_true]
  · simp only [hkey, if_false, reduceCtorEq]

/-- What was behind is left as it was. -/
theorem mem_drop_of_getElem?
    (h : l.Queue queue)
    {n : Nat}
    (hc : (l.without queue n).counters[key]? = some c) :
    l.counters[key]? = some c ∧ (key, c) ∈ queue.drop n := by
  have hkept : l.counters[key]? = some c := by
    rw [without, getElem?_foldl_erase] at hc
    split at hc
    · cases hc
    · exact hc
  have hnotin : (key, c) ∉ queue.take n := by
    intro hentry
    rw [(h.mem_take_iff n hkept).2 hentry] at hc
    cases hc
  have hin := (h.mem_iff key c).2 hkept
  rw [← List.take_append_drop n queue] at hin
  exact ⟨hkept, (List.mem_append.1 hin).resolve_left hnotin⟩

theorem size_without
    (h : l.Queue queue)
    {n : Nat}
    (hn : n ≤ l.size) :
    (l.without queue n).size = l.size - n := by
  have hkeys : ((queue.take n).map (·.1)).Nodup :=
    h.distinct.sublist ((List.take_sublist n queue).map _)
  have hmem : ∀ k, k ∈ (queue.take n).map (·.1) → k ∈ l.counters := by
    intro k hk
    obtain ⟨⟨k, c⟩, hentry, rfl⟩ := List.mem_map.1 hk
    have hc := (h.mem_iff k c).1 (List.mem_of_mem_take hentry)
    rw [Std.ExtTreeMap.mem_iff_isSome_getElem?, hc]
    rfl
  have hlength : ((queue.take n).map (·.1)).length = n := by
    rw [List.length_map, List.length_take, h.length, Nat.min_eq_left hn]
  rw [size, without, size_foldl_erase hkeys hmem, hlength]
  rfl

/-- What is dropped closes before all that is left. -/
theorem end_le
    (h : l.Queue queue)
    {n : Nat}
    {key' : String}
    {c' : Counter}
    (hleft : (l.without queue n).counters[key]? = some c)
    (hc' : l.counters[key']? = some c')
    (hdropped : (l.without queue n).counters[key']? = none) :
    c'.windowEndMicros ≤ c.windowEndMicros := by
  have hordered := h.ordered
  rw [← List.take_append_drop n queue] at hordered
  exact (List.pairwise_append.1 hordered).2.2 _ ((h.mem_take_iff n hc').1 hdropped) _
    (h.mem_drop_of_getElem? hleft).2

end Queue

/-- The counters, sorted by the ends of their windows. -/
def byEnd (l : Limiter) : List (String × Counter) :=
  l.counters.toList.mergeSort fun a b => a.2.windowEndMicros ≤ b.2.windowEndMicros

theorem queue_byEnd (l : Limiter) : l.Queue l.byEnd := by
  have hperm : l.byEnd.Perm l.counters.toList := List.mergeSort_perm _ _
  refine ⟨fun key c => ?_, ?_, ?_, ?_⟩
  · rw [hperm.mem_iff, Std.ExtTreeMap.mem_toList_iff_getElem?_eq_some]
  · rw [(hperm.map _).nodup_iff, List.Nodup, List.pairwise_map]
    exact Std.ExtTreeMap.distinct_keys_toList.imp fun hne heq =>
      hne (Std.LawfulEqCmp.compare_eq_iff_eq.2 heq)
  · rw [hperm.length_eq, Std.ExtTreeMap.length_toList]
    rfl
  · have hsorted : l.byEnd.Pairwise fun a b =>
        decide (a.2.windowEndMicros ≤ b.2.windowEndMicros) = true := by
      refine List.pairwise_mergeSort (fun a b c hab hbc => ?_) (fun a b => ?_) _
      · simp only [decide_eq_true_eq] at *
        exact Nat.le_trans hab hbc
      · simp only [Bool.or_eq_true, decide_eq_true_eq]
        exact Nat.le_total _ _
    simpa only [decide_eq_true_eq] using hsorted

/-- The second pass of a sweep drops the front of the list that is too long. -/
theorem dropOverflow_eq (l : Limiter) :
    l.dropOverflow = l.without l.byEnd (l.size - maxCounters) := by
  unfold dropOverflow without keysByEnd
  split
  · rename_i hroom
    rw [Nat.sub_eq_zero_of_le hroom]
    rfl
  · rw [List.map_take]
    rfl

/-- The first pass of a sweep leaves the windows that are open. -/
theorem getElem?_dropClosed_iff
    {l : Limiter}
    {now : Instant}
    {key : String}
    {c : Counter} :
    (l.dropClosed now).counters[key]? = some c ↔
      l.counters[key]? = some c ∧ microReading now < c.windowEndMicros := by
  rw [dropClosed, Std.ExtTreeMap.getElem?_filter', Option.filter_eq_some_iff, decide_eq_true_iff]

/-- A sweep leaves windows that are open. -/
theorem lt_windowEndMicros_of_evictStale
    {l : Limiter}
    {now : Instant}
    {key : String}
    {c : Counter}
    (hc : (l.evictStale now).counters[key]? = some c) :
    microReading now < c.windowEndMicros := by
  rw [evictStale, dropOverflow_eq] at hc
  exact (getElem?_dropClosed_iff.1 ((queue_byEnd _).mem_drop_of_getElem? hc).1).2

theorem size_evictStale (l : Limiter) (now : Instant) :
    (l.evictStale now).size = min (l.dropClosed now).size maxCounters := by
  rw [evictStale, dropOverflow_eq, (queue_byEnd _).size_without (Nat.sub_le _ _)]
  omega

/--
In any state of the limiter, a sweep leaves only counters whose window is open by its reading of the
clock, and no more of them than the bound, all as they were. If it drops one whose window is open,
it leaves as many as the bound, and the window of every counter that it drops closes no later than
those of all that it leaves.
-/
theorem leaves_latest
    (l : Limiter)
    (now : Instant) :
    (∀ (key : String) (c : Counter),
      (l.evictStale now).counters[key]? = some c → microReading now < c.windowEndMicros) ∧
    (l.evictStale now).size ≤ maxCounters ∧
    (∀ (key : String) (c : Counter),
      (l.evictStale now).counters[key]? = some c → l.counters[key]? = some c) ∧
    ∀ (key : String) (c : Counter),
      l.counters[key]? = some c →
      microReading now < c.windowEndMicros →
      (l.evictStale now).counters[key]? = none →
      (l.evictStale now).size = maxCounters ∧
      ∀ (left dropped : String) (cl cd : Counter),
        (l.evictStale now).counters[left]? = some cl →
        l.counters[dropped]? = some cd →
        (l.evictStale now).counters[dropped]? = none →
        cd.windowEndMicros ≤ cl.windowEndMicros := by
  refine ⟨fun key c hc => lt_windowEndMicros_of_evictStale hc, ?_,
    fun key c hc => getElem?_of_evictStale hc, ?_⟩
  · rw [size_evictStale]
    exact Nat.min_le_right _ _
  · intro key c hc hopen hgone
    refine ⟨?_, fun left dropped cl cd hl hd hnone => ?_⟩
    · -- An open window is dropped only where there are too many of them.
      rw [size_evictStale]
      refine Nat.min_eq_right (Nat.le_of_not_lt fun hroom => ?_)
      rw [l.getElem?_evictStale (Nat.le_of_lt hroom), hc, Option.filter_some] at hgone
      simp [hopen] at hgone
    · by_cases hclosed : microReading now < cd.windowEndMicros
      · rw [evictStale, dropOverflow_eq] at hl hnone
        exact (queue_byEnd _).end_le hl (getElem?_dropClosed_iff.2 ⟨hd, hclosed⟩) hnone
      · exact Nat.le_trans (Nat.le_of_not_lt hclosed)
          (Nat.le_of_lt (lt_windowEndMicros_of_evictStale hl))

section Crowding

/-- A key for each number. -/
def keyOf (i : Nat) : String := String.ofList (List.replicate i 'x')

/-- The counters of as many callers, whose windows close one after another. -/
def crowd (n : Nat) : Limiter :=
  ⟨Std.ExtTreeMap.ofList ((List.range n).map fun i => (keyOf i, ⟨0, 1, i + 1⟩)) compare⟩

theorem keyOf_injective {i j : Nat} (h : keyOf i = keyOf j) : i = j := by
  have hlength := congrArg String.length h
  simpa [keyOf] using hlength

theorem crowd_distinct (n : Nat) :
    ((List.range n).map fun i => (keyOf i, (⟨0, 1, i + 1⟩ : Counter))).Pairwise
      fun a b => ¬ compare a.1 b.1 = .eq := by
  rw [List.pairwise_map]
  refine List.nodup_range.imp fun hne heq => hne (keyOf_injective ?_)
  exact Std.LawfulEqCmp.compare_eq_iff_eq.1 heq

theorem size_crowd (n : Nat) : (crowd n).size = n := by
  rw [size, crowd, Std.ExtTreeMap.size_ofList (crowd_distinct n)]
  simp

theorem getElem?_crowd
    {n i : Nat}
    (hi : i < n) :
    (crowd n).counters[keyOf i]? = some ⟨0, 1, i + 1⟩ :=
  Std.ExtTreeMap.getElem?_ofList_of_mem Std.ReflCmp.compare_self (crowd_distinct n)
    (List.mem_map.2 ⟨i, List.mem_range.2 hi, rfl⟩)

theorem exists_of_getElem?_crowd
    {n : Nat}
    {key : String}
    {c : Counter}
    (h : (crowd n).counters[key]? = some c) :
    ∃ i, i < n ∧ key = keyOf i ∧ c = ⟨0, 1, i + 1⟩ := by
  have hmem : key ∈ (crowd n).counters := by
    rw [Std.ExtTreeMap.mem_iff_isSome_getElem?, h]
    rfl
  rw [crowd, Std.ExtTreeMap.mem_ofList] at hmem
  simp only [List.map_map, List.contains_iff_mem, List.mem_map, List.mem_range] at hmem
  obtain ⟨i, hi, rfl⟩ := hmem
  exact ⟨i, hi, rfl, Option.some.inj (h.symm.trans (getElem?_crowd hi))⟩

/-- Of one counter too many, all still open, a sweep drops the one whose window closes first. -/
theorem leaves_latest_crowd :
    ((crowd 100001).evictStale 0).size = maxCounters ∧
    ((crowd 100001).evictStale 0).counters[keyOf 0]? = none := by
  obtain ⟨_, hsize, hkept, hoverflow⟩ := leaves_latest (crowd 100001) 0
  have hgone : ∃ i, i < 100001 ∧ ((crowd 100001).evictStale 0).counters[keyOf i]? = none := by
    by_contra hnone
    have hall : ((crowd 100001).evictStale 0).counters = (crowd 100001).counters := by
      refine Std.ExtTreeMap.ext_getElem? fun key => ?_
      cases hleft : ((crowd 100001).evictStale 0).counters[key]? with
      | some c => exact (hkept key c hleft).symm
      | none =>
          cases hkey : (crowd 100001).counters[key]? with
          | none => rfl
          | some c =>
              obtain ⟨i, hi, rfl, _⟩ := exists_of_getElem?_crowd hkey
              exact absurd ⟨i, hi, hleft⟩ hnone
    rw [size, hall] at hsize
    have hcrowd := size_crowd 100001
    rw [size] at hcrowd
    rw [hcrowd] at hsize
    exact absurd hsize (by decide)
  obtain ⟨i, hi, hdropped⟩ := hgone
  obtain ⟨hfull, horder⟩ :=
    hoverflow (keyOf i) ⟨0, 1, i + 1⟩ (getElem?_crowd hi) (Nat.succ_pos i) hdropped
  refine ⟨hfull, ?_⟩
  cases hfirst : ((crowd 100001).evictStale 0).counters[keyOf 0]? with
  | none => rfl
  | some c =>
      -- Then the counter that was dropped closes no later than this one, so it is this one.
      have hc := Option.some.inj ((hkept _ _ hfirst).symm.trans (getElem?_crowd (by decide)))
      have hle := horder (keyOf 0) (keyOf i) c _ hfirst (getElem?_crowd hi) hdropped
      rw [hc] at hle
      obtain rfl : i = 0 := Nat.le_zero.1 (Nat.le_of_succ_le_succ hle)
      rw [hdropped] at hfirst
      cases hfirst

end Crowding

end Limiter
end RateLimit
end ApiGateway
