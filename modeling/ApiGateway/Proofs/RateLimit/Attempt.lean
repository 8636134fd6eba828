import ApiGateway.RateLimit.Limiter

/-!
# One attempt

What one attempt does to the counters: it is answered by the counter under its own key, it writes
that counter back, and it touches no other. An attempt that is denied under a limit that is not
zero leaves the counters as they are: it renews no window and opens none, since a window that has
just opened has room.
-/

namespace ApiGateway
namespace RateLimit

namespace Counter

variable (c : Counter)
variable (p : Policy)
variable (now : Instant)

/-- An attempt is denied and changes nothing more, or it is admitted and counted. -/
theorem attempt_cases :
    (p.limit ≤ (c.renewed p.period now).count ∧
      c.attempt p now =
        (c.renewed p.period now,
          ⟨false, 0, (c.renewed p.period now).windowStart + p.period - now⟩)) ∨
    ((c.renewed p.period now).count < p.limit ∧
      c.attempt p now =
        ({ c.renewed p.period now with count := (c.renewed p.period now).count + 1 },
          ⟨true, p.limit - ((c.renewed p.period now).count + 1),
            (c.renewed p.period now).windowStart + p.period - now⟩)) := by
  unfold attempt
  by_cases h : p.limit ≤ (c.renewed p.period now).count
  · exact Or.inl ⟨h, by simp only [if_pos h]⟩
  · exact Or.inr ⟨Nat.lt_of_not_le h, by simp only [if_neg h]⟩

@[simp] theorem count_opened (period : Duration) :
    (opened period now).count = 0 :=
  rfl

/-- A window that has just opened is not renewed in a way that shows. -/
@[simp] theorem renewed_opened (period : Duration) :
    (opened period now).renewed period now = opened period now := by
  unfold renewed
  split <;> rfl

/-- The first attempt in a window is admitted. -/
theorem attempt_opened
    (hlimit : 0 < p.limit) :
    (opened p.period now).attempt p now =
      (⟨now, 1, microReading (now + p.period)⟩, ⟨true, p.limit - 1, p.period⟩) := by
  rcases attempt_cases (opened p.period now) p now with ⟨hfull, _⟩ | ⟨_, ha⟩
  · rw [renewed_opened, count_opened] at hfull
    omega
  · rw [ha, renewed_opened]
    simp [opened]

/-- A denied attempt has found its counter, full, in a window that is still open. -/
theorem renewed_of_denied
    (hlimit : 0 < p.limit)
    (h : (c.attempt p now).2.allowed = false) :
    c.renewed p.period now = c := by
  rcases attempt_cases c p now with ⟨hfull, _⟩ | ⟨_, ha⟩
  · unfold renewed at hfull ⊢
    split
    · rename_i hover
      rw [if_pos hover, count_opened] at hfull
      omega
    · rfl
  · rw [ha] at h
    cases h

end Counter

namespace Limiter

variable (l : Limiter)
variable (p : Policy)
variable (routeKey client : String)
variable (now : Instant)

/-- The counter that an attempt finds, opened on the spot if there is none. -/
def found (period : Duration) (key : String) (now : Instant) : Counter :=
  (l.counters[key]?).getD (.opened period now)

/-- Counters are told apart by equality of their keys. -/
theorem getElem?_insert
    (counters : Std.ExtTreeMap String Counter compare)
    (key key' : String)
    (c : Counter) :
    (counters.insert key c)[key']? = if key = key' then some c else counters[key']? := by
  simp only [Std.ExtTreeMap.getElem?_insert, Std.LawfulEqCmp.compare_eq_iff_eq]

/-- To write a counter back unchanged changes nothing. -/
theorem insert_of_getElem?
    {counters : Std.ExtTreeMap String Counter compare}
    {key : String}
    {c : Counter}
    (h : counters[key]? = some c) :
    counters.insert key c = counters := by
  apply Std.ExtTreeMap.ext_getElem?
  intro k
  rw [getElem?_insert]
  split
  · rename_i hk
    rw [← hk, h]
  · rfl

theorem check_eq :
    l.check p routeKey client now =
      (⟨l.counters.insert (counterKey p routeKey client)
        ((l.found p.period (counterKey p routeKey client) now).attempt p now).1⟩,
        ((l.found p.period (counterKey p routeKey client) now).attempt p now).2) :=
  rfl

/-- An attempt writes its own counter back. -/
theorem getElem?_check_self :
    (l.check p routeKey client now).1.counters[counterKey p routeKey client]? =
      some ((l.found p.period (counterKey p routeKey client) now).attempt p now).1 := by
  rw [check_eq]
  exact l.counters.getElem?_insert_self

/-- An attempt touches no counter but its own. -/
theorem getElem?_check_of_ne
    {key : String}
    (h : key ≠ counterKey p routeKey client) :
    (l.check p routeKey client now).1.counters[key]? = l.counters[key]? := by
  rw [check_eq]
  rw [getElem?_insert, if_neg (Ne.symm h)]

/-- A denied attempt changes nothing at all. -/
theorem check_of_denied
    (hlimit : 0 < p.limit)
    (h : (l.check p routeKey client now).2.allowed = false) :
    (l.check p routeKey client now).1 = l := by
  rw [check_eq] at h ⊢
  generalize counterKey p routeKey client = key at h ⊢
  have hrenewed := Counter.renewed_of_denied _ p now hlimit h
  rcases Counter.attempt_cases (l.found p.period key now) p now with ⟨hfull, ha⟩ | ⟨_, ha⟩
  · rw [ha, hrenewed]
    rw [hrenewed] at hfull
    cases hkey : l.counters[key]? with
    | none =>
        rw [found, hkey, Option.getD_none, Counter.count_opened] at hfull
        omega
    | some c =>
        have hfound : l.found p.period key now = c := by rw [found, hkey, Option.getD_some]
        rw [hfound, insert_of_getElem? hkey]
  · rw [ha] at h
    cases h

end Limiter
end RateLimit
end ApiGateway
