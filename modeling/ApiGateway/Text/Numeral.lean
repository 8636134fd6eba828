/-!
# Numerals

Reading decimal numerals with an upper bound, as they are written in configuration texts,
environment variables and claims expressions: an optional plus sign, then ASCII digits with any
number of leading zeros, and nothing else.
-/

namespace ApiGateway
namespace Text

def max64 : Nat := 18446744073709551615

def digitValue (c : Char) : Nat :=
  c.toNat - '0'.toNat

/-- The number that a list of digits denotes, most significant digit first. -/
def ofDigits (cs : List Char) : Nat :=
  cs.foldl (fun n c => 10 * n + digitValue c) 0

/-- Reads a numeral that is at most `bound`. -/
def natural? (bound : Nat) (cs : List Char) : Option Nat :=
  let digits := if cs.head? = some '+' then cs.drop 1 else cs
  if digits.isEmpty || ! digits.all Char.isDigit then none
  else if ofDigits digits ≤ bound then some (ofDigits digits)
  else none

def natural64? (s : String) : Option Nat :=
  natural? max64 s.toList

end Text
end ApiGateway
