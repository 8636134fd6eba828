/-!
# Bytes

Bodies and header values are lists of bytes. Text becomes bytes by UTF-8; bytes become text
again only where they are valid UTF-8. Digests and generated identifiers are printed as
lower-case hexadecimal digits.
-/

namespace ApiGateway

/-- A body, a header value, or any other sequence of bytes. -/
abbrev Bytes := List UInt8

namespace Bytes

def ofText (s : String) : Bytes :=
  s.toUTF8.toList

/-- The text whose UTF-8 bytes these are. -/
def text? (b : Bytes) : Option String :=
  String.fromUTF8? ⟨b.toArray⟩

/-- One hexadecimal digit, letters in lower case. -/
def hexDigit (n : Nat) : Char :=
  if n < 10 then Char.ofNat ('0'.toNat + n) else Char.ofNat ('a'.toNat + (n - 10))

/-- The value of a hexadecimal digit in either case. -/
def hexValue? (c : Char) : Option Nat :=
  if c.isDigit then some (c.toNat - '0'.toNat)
  else if 'a' ≤ c ∧ c ≤ 'f' then some (c.toNat - 'a'.toNat + 10)
  else if 'A' ≤ c ∧ c ≤ 'F' then some (c.toNat - 'A'.toNat + 10)
  else none

/-- Two lower-case hexadecimal digits per byte. -/
def hexChars : Bytes → List Char
  | [] => []
  | b :: bs => hexDigit (b.toNat / 16) :: hexDigit (b.toNat % 16) :: hexChars bs

/-- Two lower-case hexadecimal digits per byte. -/
def toHex (b : Bytes) : String :=
  String.ofList (hexChars b)

/-- Reads two hexadecimal digits per byte. -/
def ofHexChars? : List Char → Option Bytes
  | [] => some []
  | [_] => none
  | c :: d :: cs => do
      let hi ← hexValue? c
      let lo ← hexValue? d
      let rest ← ofHexChars? cs
      return UInt8.ofNat (16 * hi + lo) :: rest

end Bytes
end ApiGateway
