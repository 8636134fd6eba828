import ApiGateway.Duration.Basic
import ApiGateway.Text.Blank
import ApiGateway.Text.Numeral

/-!
# Written lengths of time

A length of time is written as a sequence of numbers with units, such as `1h 30m` or `1.5s`.
Blanks may stand inside a number and between its number and its unit. The reader is a machine
that takes one character at a time; a complaint names the byte at which the text went wrong.

Lengths are kept in 64 bits of seconds and the nanoseconds beyond them: a number, a product with
the unit, or a sum that does not fit is refused, and so is a fraction that is no whole number of
the finer unit.
-/

namespace ApiGateway
namespace Duration

/-- Why a text is no length of time. -/
inductive Fault
  | empty
  | numberExpected (position : Nat)
  | invalidCharacter (position : Nat)
  | unitNeeded (number : Nat)
  | unknownUnit (name : String)
  | outOfRange

def Fault.message : Fault → String
  | .empty => "value was empty"
  | .numberExpected p => s!"expected number at {p}"
  | .invalidCharacter p => s!"invalid character at {p}"
  | .unitNeeded n => s!"time unit needed, for example {n}sec or {n}ms"
  | .unknownUnit u =>
      s!"unknown time unit \"{u}\", supported units: ns, us/µs, ms, sec, min, hours, days, "
        ++ "weeks, months, years (and few variations)"
  | .outOfRange =>
      "number is too large or cannot be represented without a lack of precision "
        ++ "(values below 1ns are not supported)"

inductive TimeUnit
  | nanosecond | microsecond | millisecond | second | minute | hour | day | week | month | year

namespace TimeUnit

def ofName? (name : String) : Option TimeUnit :=
  if name ∈ ["nanos", "nsec", "ns"] then some nanosecond
  else if name ∈ ["usec", "us", "µs"] then some microsecond
  else if name ∈ ["millis", "msec", "ms"] then some millisecond
  else if name ∈ ["seconds", "second", "secs", "sec", "s"] then some second
  else if name ∈ ["minutes", "minute", "min", "mins", "m"] then some minute
  else if name ∈ ["hours", "hour", "hr", "hrs", "h"] then some hour
  else if name ∈ ["days", "day", "d"] then some day
  else if name ∈ ["weeks", "week", "wk", "wks", "w"] then some week
  else if name ∈ ["months", "month", "M"] then some month
  else if name ∈ ["years", "year", "yr", "yrs", "y"] then some year
  else none

/-- Nanoseconds in a unit below the second, seconds in any other. -/
def size : TimeUnit → Nat
  | nanosecond => 1
  | microsecond => 1000
  | millisecond => 1000000
  | second => 1
  | minute => 60
  | hour => 3600
  | day => 86400
  | week => 604800
  | month => 2630016
  | year => 31557600

/-- Whether a whole number of the unit is counted in nanoseconds. -/
def isFine : TimeUnit → Bool
  | nanosecond | microsecond | millisecond => true
  | _ => false

/--
How many of the finer unit a fraction of this unit is counted in, and whether the finer unit is
the nanosecond (else it is the second); a nanosecond has no fractions.
-/
def fractionSize? : TimeUnit → Option (Nat × Bool)
  | nanosecond => none
  | second => some (perSecond, true)
  | minute => some (60 * perSecond, true)
  | u => some (u.size, u.isFine)

end TimeUnit

/-- The number if it fits into 64 bits. -/
def fit (n : Nat) : Except Fault Nat :=
  if n ≤ Text.max64 then .ok n else .error .outOfRange

/-- Adds seconds and nanoseconds to a sum, each part within 64 bits. -/
def addParts (sum : Duration) (s ns : Nat) : Except Fault Duration := do
  let ns ← fit (sum.subsecNanos + ns)
  let s ← fit (s + ns / perSecond)
  let s ← fit (sum.secs + s)
  return s * perSecond + ns % perSecond

/-- A fraction of a number: numerator and denominator. -/
structure Fraction where
  numerator : Nat
  denominator : Nat

/-- Adds a number of a named unit to a sum. -/
def addUnit (sum : Duration) (n : Nat) (fraction : Option Fraction) (name : String) :
    Except Fault Duration :=
  if name.isEmpty then .error (.unitNeeded n)
  else
    match TimeUnit.ofName? name with
    | none => .error (.unknownUnit name)
    | some u => do
        let amount ← fit (n * u.size)
        let sum ← if u.isFine then addParts sum 0 amount else addParts sum amount 0
        match fraction with
        | none => return sum
        | some f =>
            match u.fractionSize? with
            | none => .error .outOfRange
            | some (size, fine) =>
                let scaled ← fit (f.numerator * size)
                if scaled % f.denominator ≠ 0 then .error .outOfRange
                else
                  let amount := scaled / f.denominator
                  if fine then addParts sum 0 amount else addParts sum amount 0

/-- What the reader is in the middle of. -/
inductive Phase
  /-- Before a number, since a position; only the first number must come. -/
  | awaiting (since : Nat) (isFirst : Bool)
  | whole (n : Nat)
  /-- After the point; the last position is the one to complain about. -/
  | fraction (n : Nat) (f : Fraction) (position : Nat)
  /-- In a unit, whose letters are kept in reverse. -/
  | unit (n : Nat) (f : Option Fraction) (letters : List Char)

structure Reading where
  position : Nat := 0
  sum : Duration := 0
  phase : Phase := .awaiting 0 true

/-- A letter that a unit may hold. -/
def isUnitLetter (c : Char) : Bool :=
  ('a' ≤ c && c ≤ 'z') || ('A' ≤ c && c ≤ 'Z') || c == 'µ'

/-- One character. -/
def Reading.step (r : Reading) (c : Char) : Except Fault Reading :=
  let here := r.position
  let next := here + c.utf8Size
  let goOn (sum : Duration) (phase : Phase) : Reading := ⟨next, sum, phase⟩
  match r.phase with
  | .awaiting since isFirst =>
      if c.isDigit then .ok (goOn r.sum (.whole (Text.digitValue c)))
      else if Text.isBlank c then .ok (goOn r.sum (.awaiting since isFirst))
      else .error (.numberExpected since)
  | .whole n =>
      if c.isDigit then do
        return goOn r.sum (.whole (← fit (10 * n + Text.digitValue c)))
      else if Text.isBlank c then .ok (goOn r.sum (.whole n))
      else if isUnitLetter c then .ok (goOn r.sum (.unit n none [c]))
      else if c = '.' then .ok (goOn r.sum (.fraction n ⟨0, 1⟩ here))
      else .error (.invalidCharacter here)
  | .fraction n f position =>
      if c.isDigit then do
        let denominator ← fit (10 * f.denominator)
        let numerator ← fit (10 * f.numerator + Text.digitValue c)
        return goOn r.sum (.fraction n ⟨numerator, denominator⟩ next)
      else if Text.isBlank c then .ok (goOn r.sum (.fraction n f next))
      else if isUnitLetter c && f.denominator ≠ 1 then
        .ok (goOn r.sum (.unit n (some f) [c]))
      else .error (.invalidCharacter position)
  | .unit n f letters =>
      if c.isDigit then do
        let sum ← addUnit r.sum n f (String.ofList letters.reverse)
        return goOn sum (.whole (Text.digitValue c))
      else if Text.isBlank c then do
        let sum ← addUnit r.sum n f (String.ofList letters.reverse)
        return goOn sum (.awaiting next false)
      else if isUnitLetter c then .ok (goOn r.sum (.unit n f (c :: letters)))
      else .error (.invalidCharacter here)

/-- The end of the text. -/
def Reading.finish (r : Reading) : Except Fault Duration :=
  match r.phase with
  | .awaiting _ isFirst => if isFirst then .error .empty else .ok r.sum
  | .whole n => addUnit r.sum n none ""
  | .fraction n f position =>
      if f.denominator = 1 then .error (.invalidCharacter position)
      else addUnit r.sum n (some f) ""
  | .unit n f letters => addUnit r.sum n f (String.ofList letters.reverse)

/-- Reads a length of time; a lone zero needs no unit. -/
def read (s : String) : Except Fault Duration :=
  if s = "0" then .ok 0
  else do
    let r ← s.toList.foldlM Reading.step {}
    r.finish

end Duration
end ApiGateway
