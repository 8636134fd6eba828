/-!
# Decimal notation

Measurements are doubles. One is printed with the fewest digits that denote it and no other double,
in positional notation without an exponent. Of two such decimals with equally many digits the
nearer one is printed, and of two equally near ones the larger.
-/

namespace ApiGateway

/-- A positive double as the exact number `mantissa * 2 ^ exponent`. -/
structure Binary where
  mantissa : Nat
  exponent : Int
  /-- The next smaller double is half as far away as the next larger one. -/
  narrowBelow : Bool
deriving DecidableEq

/-- The number `digits * 10 ^ exponent`. -/
structure Decimal where
  digits : Nat
  exponent : Int
deriving DecidableEq

namespace Binary

/-- The biased exponent in the bits of a double; the largest one marks what is no number. -/
def biasedExponent (bits : UInt64) : Nat := bits.toNat / Nat.pow 2 52 % Nat.pow 2 11

/-- The fraction in the bits of a double. -/
def fraction (bits : UInt64) : Nat := bits.toNat % Nat.pow 2 52

/-- The magnitude that the bits of a double denote. -/
def ofBits (bits : UInt64) : Binary :=
  let e := biasedExponent bits
  let f := fraction bits
  if e = 0 then ⟨f, -1074, false⟩
  else ⟨Nat.pow 2 52 + f, Int.ofNat e - 1075, f == 0 && e != 1⟩

/-- A quarter of `2 ^ exponent` in units of `10 ^ power`, as a fraction. -/
def quarter (b : Binary) (power : Int) : Nat × Nat :=
  (Nat.pow 2 b.exponent.toNat * Nat.pow 10 (-power).toNat,
    4 * Nat.pow 2 (-b.exponent).toNat * Nat.pow 10 power.toNat)

/--
Whether a decimal denotes the double: it lies between the middles to the two neighbours, or on one
of these if the mantissa is even.
-/
def isDenotedBy (b : Binary) (d : Decimal) : Bool :=
  let (unit, scale) := b.quarter d.exponent
  let low := unit * (4 * b.mantissa - if b.narrowBelow then 1 else 2)
  let high := unit * (4 * b.mantissa + 2)
  let n := d.digits * scale
  if b.mantissa % 2 = 0 then low ≤ n && n ≤ high else low < n && n < high

/-- The nearest multiple of `10 ^ power`, if one denotes the double. -/
def nearest? (b : Binary) (power : Int) : Option Decimal :=
  let (unit, scale) := b.quarter power
  let exact := unit * (4 * b.mantissa)
  let below : Decimal := ⟨exact / scale, power⟩
  let above : Decimal := ⟨exact / scale + 1, power⟩
  match b.isDenotedBy below, b.isDenotedBy above with
  | true, true => if 2 * (exact % scale) < scale then some below else some above
  | true, false => some below
  | false, true => some above
  | false, false => none

/-- The decimal with the fewest digits that denotes the double. -/
def shortest (b : Binary) : Decimal :=
  let found := (List.range 633).findSome? fun i => b.nearest? (308 - Int.ofNat i)
  found.getD
    ⟨b.mantissa * Nat.pow 2 b.exponent.toNat * Nat.pow 5 (-b.exponent).toNat, min b.exponent 0⟩

end Binary

def Decimal.print (d : Decimal) : String :=
  let digits := Nat.toDigits 10 d.digits
  if 0 ≤ d.exponent then String.ofList (digits ++ List.replicate d.exponent.toNat '0')
  else
    let places := (-d.exponent).toNat
    let padded := List.replicate (places + 1 - digits.length) '0' ++ digits
    let whole := padded.length - places
    String.ofList (padded.take whole ++ '.' :: padded.drop whole)

/-- A double in positional notation. -/
def printDouble (x : Float) : String :=
  let bits := x.toBits
  let sign := if bits.toNat < Nat.pow 2 63 then "" else "-"
  if Binary.biasedExponent bits = 2047 then
    if Binary.fraction bits = 0 then sign ++ "inf" else "NaN"
  else if (Binary.ofBits bits).mantissa = 0 then sign ++ "0"
  else sign ++ (Binary.ofBits bits).shortest.print

end ApiGateway
