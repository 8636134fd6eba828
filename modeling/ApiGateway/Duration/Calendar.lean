import ApiGateway.Duration.Basic

/-!
# Calendar dates

The date and time in universal time of a number of seconds since the beginning of 1970, printed
as `2024-02-29T23:59:59Z`. Years are counted from March, so that the leap day is the last day of
a year, and in cycles of 400 years, which all have the same number of days.
-/

namespace ApiGateway
namespace Calendar

/-- Days in 400 years. -/
def daysPerCycle : Nat := 146097

structure Date where
  year : Nat
  month : Nat
  day : Nat
deriving DecidableEq

/-- The date of a number of days since the beginning of 1970. -/
def ofDays (days : Nat) : Date :=
  -- days since the first of March of the year zero
  let z := days + 719468
  let cycle := z / daysPerCycle
  let dayOfCycle := z % daysPerCycle
  let yearOfCycle :=
    (dayOfCycle - dayOfCycle / 1460 + dayOfCycle / 36524 - dayOfCycle / 146096) / 365
  let dayOfYear := dayOfCycle - (365 * yearOfCycle + yearOfCycle / 4 - yearOfCycle / 100)
  let monthFromMarch := (5 * dayOfYear + 2) / 153
  let day := dayOfYear - (153 * monthFromMarch + 2) / 5 + 1
  let month := if monthFromMarch < 10 then monthFromMarch + 3 else monthFromMarch - 9
  let year := 400 * cycle + yearOfCycle + if month ≤ 2 then 1 else 0
  ⟨year, month, day⟩

/-- A number in at least `n` digits. -/
def padded (n value : Nat) : String :=
  let s := toString value
  String.ofList (List.replicate (n - s.length) '0') ++ s

def print (seconds : Nat) : String :=
  let date := ofDays (seconds / 86400)
  let time := seconds % 86400
  padded 4 date.year ++ "-" ++ padded 2 date.month ++ "-" ++ padded 2 date.day ++ "T"
    ++ padded 2 (time / 3600) ++ ":" ++ padded 2 (time / 60 % 60) ++ ":"
    ++ padded 2 (time % 60) ++ "Z"

end Calendar
end ApiGateway
