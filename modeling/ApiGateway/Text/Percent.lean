import ApiGateway.Text.Bytes

/-!
# Percent-encoding

Inside a query, every byte outside the unreserved ASCII characters is written as `%` and two
capital hexadecimal digits. Reading back decodes each such triple and leaves everything else as
it stands.
-/

namespace ApiGateway
namespace Percent

/-- The bytes that stand for themselves: ASCII letters, digits and `-`, `_`, `.`, `~`. -/
def isUnreserved (b : UInt8) : Bool :=
  (0x30 ≤ b && b ≤ 0x39) || (0x41 ≤ b && b ≤ 0x5A) || (0x61 ≤ b && b ≤ 0x7A)
    || b == 0x2D || b == 0x5F || b == 0x2E || b == 0x7E

/-- One hexadecimal digit, letters as capitals. -/
def hexCapital (n : Nat) : Char :=
  if n < 10 then Char.ofNat ('0'.toNat + n) else Char.ofNat ('A'.toNat + (n - 10))

/-- How one byte is written. -/
def encodeByte (b : UInt8) : List Char :=
  if isUnreserved b then [Char.ofNat b.toNat]
  else ['%', hexCapital (b.toNat / 16), hexCapital (b.toNat % 16)]

def encodeBytes (bs : Bytes) : List Char :=
  bs.flatMap encodeByte

/-- The encoding of a text, byte by byte of its UTF-8 form. -/
def encode (s : String) : String :=
  String.ofList (encodeBytes (Bytes.ofText s))

/-- The bytes that an encoded text denotes; a `%` without two digits stands for itself. -/
def decodeBytes : Bytes → Bytes
  | 0x25 :: hi :: lo :: bs =>
      match Bytes.hexValue? (Char.ofNat hi.toNat), Bytes.hexValue? (Char.ofNat lo.toNat) with
      | some h, some l => UInt8.ofNat (16 * h + l) :: decodeBytes bs
      | _, _ => 0x25 :: decodeBytes (hi :: lo :: bs)
  | b :: bs => b :: decodeBytes bs
  | [] => []

/-- The text that an encoded text denotes, where the bytes are valid UTF-8. -/
def decode? (s : String) : Option String :=
  Bytes.text? (decodeBytes (Bytes.ofText s))

end Percent
end ApiGateway
