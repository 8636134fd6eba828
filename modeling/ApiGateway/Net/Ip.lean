import ApiGateway.Text.Bytes
import ApiGateway.Text.Blank
import ApiGateway.Text.Numeral

/-!
# Network addresses

Reading and printing of addresses of both families. Four decimal numbers without leading zeros
make the shorter one. The longer one has eight groups of at most four hexadecimal digits, of
which one run of zero groups may be left out, and its last two groups may be written as a
shorter address. Printing leaves out the longest run of at least two zero groups, the first of
several, and keeps the dotted form for an address that embeds a shorter one.
-/

namespace ApiGateway

/-- An address of either family. -/
inductive IpAddress
  | v4 (a b c d : UInt8)
  | v6 (groups : List UInt16)
deriving DecidableEq

namespace IpAddress

/-- One number of the shorter form. -/
def octet? (cs : List Char) : Option UInt8 :=
  if cs.isEmpty || 3 < cs.length || ! cs.all Char.isDigit then none
  else if 1 < cs.length && cs.head? == some '0' then none
  else if Text.ofDigits cs ≤ 255 then some (UInt8.ofNat (Text.ofDigits cs))
  else none

/-- Reads the shorter form. -/
def v4? (cs : List Char) : Option (UInt8 × UInt8 × UInt8 × UInt8) :=
  match (Text.splitWhere (· == '.') cs).mapM octet? with
  | some [a, b, c, d] => some (a, b, c, d)
  | _ => none

/-- One group of the longer form. -/
def group? (cs : List Char) : Option UInt16 := do
  if cs.isEmpty || 4 < cs.length then none
  else
    let digits ← cs.mapM Bytes.hexValue?
    return UInt16.ofNat (digits.foldl (fun n d => 16 * n + d) 0)

/-- The groups that pieces between colons denote; the last one may be a shorter address. -/
def groups? : List (List Char) → Option (List UInt16)
  | [] => some []
  | [last] =>
      match group? last with
      | some g => some [g]
      | none => do
          let (a, b, c, d) ← v4? last
          return [UInt16.ofNat (256 * a.toNat + b.toNat), UInt16.ofNat (256 * c.toNat + d.toNat)]
  | p :: ps => do
      let g ← group? p
      let gs ← groups? ps
      return g :: gs

/-- The groups of a part between two marks of omission; an empty part has none. -/
def part? (cs : List Char) : Option (List UInt16) :=
  if cs.isEmpty then some [] else groups? (Text.splitWhere (· == ':') cs)

/-- The text before and after the first double colon. -/
def splitOmission? : List Char → Option (List Char × List Char)
  | ':' :: ':' :: cs => some ([], cs)
  | c :: cs => (splitOmission? cs).map fun r => (c :: r.1, r.2)
  | [] => none

/-- Reads the longer form. -/
def v6? (cs : List Char) : Option (List UInt16) :=
  match splitOmission? cs with
  | none => do
      let gs ← groups? (Text.splitWhere (· == ':') cs)
      if gs.length = 8 then some gs else none
  | some (front, back) => do
      -- a shorter address can only stand at the very end
      if front.any (· == '.') then none
      else
        let fs ← part? front
        let bs ← part? back
        if fs.length + bs.length < 8 then
          some (fs ++ List.replicate (8 - fs.length - bs.length) 0 ++ bs)
        else none

def read? (s : String) : Option IpAddress :=
  match v4? s.toList with
  | some (a, b, c, d) => some (.v4 a b c d)
  | none => (v6? s.toList).map .v6

/-- The shorter form. -/
def dotted (a b c d : UInt8) : String :=
  s!"{a.toNat}.{b.toNat}.{c.toNat}.{d.toNat}"

/-- A group in hexadecimal digits without leading zeros. -/
def groupText (g : UInt16) : String :=
  String.ofList (Nat.toDigits 16 g.toNat)

/-- Groups joined by colons. -/
def joined (gs : List UInt16) : String :=
  String.intercalate ":" (gs.map groupText)

/-- The length of the run of zeros at the front. -/
def zeroRun (gs : List UInt16) : Nat :=
  (gs.takeWhile (· == 0)).length

/-- Start and length of the longest run of zeros, the first of several. -/
def longestZeroRun (gs : List UInt16) : Nat × Nat :=
  (List.range gs.length).foldl
    (fun best i => if best.2 < zeroRun (gs.drop i) then (i, zeroRun (gs.drop i)) else best) (0, 0)

def print : IpAddress → String
  | .v4 a b c d => dotted a b c d
  | .v6 gs =>
      match gs with
      | [0, 0, 0, 0, 0, 0xFFFF, x, y] =>
          "::ffff:" ++ dotted (UInt8.ofNat (x.toNat / 256)) (UInt8.ofNat (x.toNat % 256))
            (UInt8.ofNat (y.toNat / 256)) (UInt8.ofNat (y.toNat % 256))
      | _ =>
          let (start, length) := longestZeroRun gs
          if length < 2 then joined gs
          else joined (gs.take start) ++ "::" ++ joined (gs.drop (start + length))

end IpAddress

structure SocketAddress where
  ip : IpAddress
  port : UInt16
deriving DecidableEq

namespace SocketAddress

/-- Reads a number in decimal digits that is at most `bound`. -/
def number? (bound : Nat) (cs : List Char) : Option Nat :=
  if cs.isEmpty || ! cs.all Char.isDigit || bound < Text.ofDigits cs then none
  else some (Text.ofDigits cs)

/--
Reads what stands in brackets: an address of the longer form, and possibly the number of a zone of
32 bits after a percent sign. The zone is not kept.
-/
def bracketed? (cs : List Char) : Option IpAddress := do
  let address := cs.takeWhile (· ≠ '%')
  let groups ← IpAddress.v6? address
  match cs.drop address.length with
  | [] => return .v6 groups
  | _ :: zone => (number? 4294967295 zone).map fun _ => .v6 groups

/-- Reads an address, a colon and a port; an address of the longer form stands in brackets. -/
def read? (s : String) : Option SocketAddress := do
  let back := (s.toList.reverse.takeWhile (· ≠ ':')).reverse
  let port ← number? 65535 back
  let front := s.toList.take (s.toList.length - back.length - 1)
  if front.head? = some '[' ∧ front.getLast? = some ']' then
    return ⟨← bracketed? (front.drop 1).dropLast, UInt16.ofNat port⟩
  else
    let (a, b, c, d) ← IpAddress.v4? front
    return ⟨.v4 a b c d, UInt16.ofNat port⟩

end SocketAddress
end ApiGateway
