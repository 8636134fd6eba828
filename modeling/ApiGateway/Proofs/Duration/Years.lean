import ApiGateway.Duration.Calendar

/-!
# Years of four digits

The year of a date has at most four digits just until the end of the year 9999, which comes at a
certain day after the beginning of 1970.

Main statement: `year_ofDays_lt_iff`.
-/

namespace ApiGateway
namespace Calendar

/-- The first day of the year 10000, counted from the beginning of 1970. -/
def longYearsBegin : Nat := 2932897

/-- The year of a day of a cycle, where years begin with March. -/
def yearOfCycle (day : Nat) : Nat :=
  (day - day / 1460 + day / 36524 - day / 146096) / 365

/-- The month of a day of a cycle, counted from March. -/
def monthOfCycle (day : Nat) : Nat :=
  (5 * (day - (365 * yearOfCycle day + yearOfCycle day / 4 - yearOfCycle day / 100)) + 2) / 153

/-- A day of January or February belongs to the year that has begun with January. -/
theorem year_ofDays (days : Nat) :
    (ofDays days).year =
      400 * ((days + 719468) / daysPerCycle) + yearOfCycle ((days + 719468) % daysPerCycle) +
        if (if monthOfCycle ((days + 719468) % daysPerCycle) < 10 then
            monthOfCycle ((days + 719468) % daysPerCycle) + 3
          else monthOfCycle ((days + 719468) % daysPerCycle) - 9) ≤ 2 then 1 else 0 :=
  rfl

theorem yearOfCycle_lt {day : Nat} (h : day < daysPerCycle) : yearOfCycle day < 400 := by
  unfold daysPerCycle at h
  unfold yearOfCycle
  omega

/-- The last year of a cycle, counted from March. -/
theorem yearOfCycle_eq_iff {day : Nat} (h : day < daysPerCycle) :
    yearOfCycle day = 399 ↔ 145731 ≤ day := by
  unfold daysPerCycle at h
  unfold yearOfCycle
  omega

/-- Its last two months. -/
theorem monthOfCycle_of_last
    {day : Nat}
    (h : day < daysPerCycle)
    (hlast : 145731 ≤ day) :
    (10 ≤ monthOfCycle day ↔ 146037 ≤ day) ∧ monthOfCycle day ≤ 11 := by
  unfold monthOfCycle
  rw [(yearOfCycle_eq_iff h).2 hlast]
  unfold daysPerCycle at h
  omega

/-- The year has at most four digits until the year 9999 is over. -/
theorem year_ofDays_lt_iff (days : Nat) : (ofDays days).year < 10000 ↔ days < longYearsBegin := by
  have hdays := Nat.div_add_mod (days + 719468) daysPerCycle
  have hday : (days + 719468) % daysPerCycle < daysPerCycle := Nat.mod_lt _ (by decide)
  rw [year_ofDays]
  generalize (days + 719468) / daysPerCycle = cycle at hdays
  generalize (days + 719468) % daysPerCycle = day at hdays hday
  have hyear := yearOfCycle_lt hday
  have hmonth := monthOfCycle_of_last hday
  have hlast := yearOfCycle_eq_iff hday
  unfold daysPerCycle at hdays hday
  unfold longYearsBegin
  split <;> split at * <;> omega

end Calendar
end ApiGateway
