import ApiGateway.Proofs.Duration.Years
import ApiGateway.RateLimit.Limiter

/-!
# Reckonings with the time

Instants and lengths of time are numbers without a bound, but a machine keeps them in words: the
seconds of its clock in 63 bits, the readings that sweeps compare in 64 bits of microseconds, and
dates are written with four digits for the year. What is reckoned in this way may be out of range,
and what is out of range stays so if it is reckoned later (`InRange.mono`).
-/

namespace ApiGateway

/-- How many seconds a clock can show. -/
def clockSeconds : Nat := 9223372036854775808

/-- Something that is reckoned with the time. -/
inductive Reckoning
  /-- An instant on the clock of the gateway. -/
  | instant (t : Instant)
  /-- An instant that sweeps compare with their own reading of the clock. -/
  | reading (t : Instant)
  /-- A date that callers are told, by the time since the beginning of 1970. -/
  | date (t : Duration)

namespace Reckoning

/--
Whether a reckoning comes out. The clock of the machine has shown some time already, its `origin`,
when the one of the gateway starts.
-/
def InRange (origin : Duration) : Reckoning → Prop
  | instant t => Duration.secs (origin + t) < clockSeconds
  | reading t => RateLimit.microReading t = Duration.micros t
  | date t =>
      Duration.secs t < clockSeconds ∧ (Calendar.ofDays (Duration.secs t / 86400)).year < 10000

instance decidableInRange (origin : Duration) : DecidablePred (InRange origin)
  | instant _ => inferInstanceAs (Decidable (_ < _))
  | reading _ => inferInstanceAs (Decidable (_ = _))
  | date _ => inferInstanceAs (Decidable (_ ∧ _))

variable {origin : Duration}

/-- A reading is right until the microseconds have gone round. -/
theorem inRange_reading_iff {t : Instant} :
    (reading t).InRange origin ↔ Duration.micros t < RateLimit.readingBound :=
  Nat.mod_eq_iff_lt (by decide)

/-- The clock goes on for longer than years have four digits. -/
theorem inRange_date_iff {t : Duration} :
    (date t).InRange origin ↔ Duration.secs t / 86400 < Calendar.longYearsBegin := by
  rw [InRange, Calendar.year_ofDays_lt_iff]
  unfold clockSeconds Calendar.longYearsBegin
  omega

/-- The same is reckoned, of an earlier time. -/
inductive Before : Reckoning → Reckoning → Prop
  | instant {t t' : Instant} : t ≤ t' → Before (instant t) (instant t')
  | reading {t t' : Instant} : t ≤ t' → Before (reading t) (reading t')
  | date {t t' : Duration} : t ≤ t' → Before (date t) (date t')

/-- What comes out later comes out earlier. -/
theorem InRange.mono
    {c c' : Reckoning}
    (h : c'.InRange origin)
    (hbefore : c.Before c') :
    c.InRange origin := by
  cases hbefore with
  | instant hle =>
      exact Nat.lt_of_le_of_lt (Nat.div_le_div_right (Nat.add_le_add_left hle origin)) h
  | reading hle =>
      rw [inRange_reading_iff] at h ⊢
      exact Nat.lt_of_le_of_lt (Nat.div_le_div_right hle) h
  | date hle =>
      rw [inRange_date_iff] at h ⊢
      exact Nat.lt_of_le_of_lt (Nat.div_le_div_right (Nat.div_le_div_right hle)) h

end Reckoning

/-- How long a gateway goes on. -/
structure Horizon where
  /-- What the clock of the machine shows when the one of the gateway starts. -/
  origin : Duration
  /-- The last instant at which something happens. -/
  last : Instant
  /-- The time since the beginning of 1970 by then. -/
  wallClock : Duration

end ApiGateway
