import ApiGateway.Json.Reader

/-!
# Numbers as doubles

The double that a number in a JSON text stands for. The digits are gathered in an integer of 64
bits, as many as it can hold, and this is scaled by a power of ten. Integer and power are rounded
each on its own and their product or quotient once more, so that a number with many digits or a
large exponent may come out beside the nearest double.
-/

namespace ApiGateway
namespace Json

/-- Appends digits to an integer of 64 bits until one does not fit; how many did is told, too. -/
def gather : Nat → List Char → Nat × Nat
  | n, [] => (n, 0)
  | n, c :: cs =>
      let m := 10 * n + Text.digitValue c
      if m ≤ Text.max64 then
        let (total, count) := gather m cs
        (total, count + 1)
      else (n, 0)

/--
Scales by a power of ten. A power that is too small for a double is applied in steps; nothing comes
of a number that is too large.
-/
def scale? (x : Float) (exponent : Int) : Option Float :=
  if exponent < -308 then
    if x == 0 then some x else scale? (x / 1e308) (exponent + 308)
  else if 308 < exponent then
    if x == 0 then some x else none
  else
    let power := Float.ofScientific 1 false exponent.natAbs
    let y := if 0 ≤ exponent then x * power else x / power
    if y.isInf then none else some y
termination_by exponent.natAbs
decreasing_by omega

/-- The value of an exponent as it is written, with its letter. -/
def exponentValue (cs : List Char) : Int :=
  match cs.drop 1 with
  | '-' :: ds => - Int.ofNat (Text.ofDigits ds)
  | '+' :: ds => Int.ofNat (Text.ofDigits ds)
  | ds => Int.ofNat (Text.ofDigits ds)

/-- The double that a written number stands for; nothing if the text is no number or too large. -/
def double? (written : List Char) : Option Float := do
  let negative := written.head? = some '-'
  let (whole, rest) := spanDigits (if negative then written.drop 1 else written)
  let (fraction, rest) ← readFraction rest
  let (exponent, _) ← readExponent rest
  let (n, kept) := gather 0 whole
  let (n, places) := gather n (fraction.drop 1)
  let power := Int.ofNat (whole.length - kept) - Int.ofNat places + exponentValue exponent
  let x ← scale? (UInt64.ofNat n).toFloat power
  return if negative then -x else x

/-- The double that a value stands for, if it is a number. -/
def doubleOf? : Data → Option Float
  | .int n => double? (toString n).toList
  | .other written => double? written.toList
  | _ => none

end Json
end ApiGateway
