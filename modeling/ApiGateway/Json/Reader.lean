import ApiGateway.Data
import ApiGateway.Text.Bytes
import ApiGateway.Text.Numeral

/-!
# Reading JSON

A strict reader: exactly one value, blanks around tokens only, no control characters inside
texts, escapes only in the eight lettered forms and the four-digit form. A name or a text with half
of a surrogate pair may only stand where no record looks. A number without fraction and
exponent is an integer of any size, except that `-0` is a fractional number.

The readers of values take a number that bounds the nesting and the length at once; the length
of the text is always enough, because every step passes over a character.
-/

namespace ApiGateway
namespace Json

/-- The four blanks of the format. -/
def isSpace (c : Char) : Bool :=
  c == ' ' || c == '\n' || c == '\t' || c == '\r'

/-- The text after leading blanks. -/
def skipSpace (cs : List Char) : List Char :=
  cs.dropWhile isSpace

/-- The code unit that four hexadecimal digits denote. -/
def codeUnit? (a b c d : Char) : Option Nat := do
  let digits ← [a, b, c, d].mapM Bytes.hexValue?
  return digits.foldl (fun n d => 16 * n + d) 0

/-- The character of a two-character escape. -/
def escaped? : Char → Option Char
  | '"' => some '"'
  | '\\' => some '\\'
  | '/' => some '/'
  | 'b' => some '\x08'
  | 'f' => some '\x0c'
  | 'n' => some '\n'
  | 'r' => some '\r'
  | 't' => some '\t'
  | _ => none

/-- A piece of a text as it is written: a character, or an escaped unit of 16 bits. -/
inductive TextPiece
  | char (c : Char)
  | unit (n : Nat)

/-- Reads the pieces of a text after its opening quote up to the closing one. -/
def readPieces : List Char → Option (List TextPiece × List Char)
  | [] => none
  | '"' :: cs => some ([], cs)
  | '\\' :: 'u' :: a :: b :: c :: d :: cs =>
      match codeUnit? a b c d with
      | none => none
      | some n => (readPieces cs).map fun r => (.unit n :: r.1, r.2)
  | '\\' :: e :: cs =>
      match escaped? e with
      | none => none
      | some c => (readPieces cs).map fun r => (.char c :: r.1, r.2)
  | c :: cs =>
      if c.toNat < 0x20 ∨ c = '\\' then none
      else (readPieces cs).map fun r => (.char c :: r.1, r.2)

/-- The first unit of a pair that stands for one character. -/
def isHighSurrogate (n : Nat) : Bool := 0xD800 ≤ n && n < 0xDC00

/-- The second unit of a pair that stands for one character. -/
def isLowSurrogate (n : Nat) : Bool := 0xDC00 ≤ n && n < 0xE000

/-- The characters of pieces; a unit of a pair without the other one stands for none. -/
def joinPieces : List TextPiece → Option (List Char)
  | [] => some []
  | .char c :: ps => (joinPieces ps).map (c :: ·)
  | .unit high :: .unit low :: ps =>
      if isHighSurrogate high then
        if isLowSurrogate low then
          (joinPieces ps).map
            (Char.ofNat (0x10000 + 0x400 * (high - 0xD800) + (low - 0xDC00)) :: ·)
        else none
      else if isLowSurrogate high then none
      else (joinPieces (.unit low :: ps)).map (Char.ofNat high :: ·)
  | .unit n :: ps =>
      if isHighSurrogate n || isLowSurrogate n then none
      else (joinPieces ps).map (Char.ofNat n :: ·)

/-- What was read of a text when a rest is left; no record takes it. -/
def unread (cs rest : List Char) : Data :=
  .other (String.ofList (cs.take (cs.length - rest.length)))

/--
Reads a text after its opening quote up to the closing one. What is read is no text if a unit of
a pair stands alone in it.
-/
def readText (cs : List Char) : Option (Option String × List Char) :=
  (readPieces cs).map fun r => ((joinPieces r.1).map String.ofList, r.2)

/-- The table of fields, unless a name is no text. -/
def table? (fields : List (Option String × Data)) : Option Data :=
  let named? (f : Option String × Data) : Option (String × Data) := f.1.map fun k => (k, f.2)
  (fields.mapM named?).map .table

/-- The digits at the front of a text, and the rest. -/
def spanDigits (cs : List Char) : List Char × List Char :=
  (cs.takeWhile Char.isDigit, cs.dropWhile Char.isDigit)

/-- A fraction at the front of a text: its written form and the rest; nothing if malformed. -/
def readFraction : List Char → Option (List Char × List Char)
  | '.' :: cs =>
      let (ds, rest) := spanDigits cs
      if ds.isEmpty then none else some ('.' :: ds, rest)
  | cs => some ([], cs)

/-- An exponent at the front of a text: its written form and the rest; nothing if malformed. -/
def readExponent : List Char → Option (List Char × List Char)
  | [] => some ([], [])
  | e :: cs =>
      if e = 'e' ∨ e = 'E' then
        let sign := cs.takeWhile fun c => c = '+' ∨ c = '-'
        let (ds, rest) := spanDigits (cs.drop sign.length)
        if 1 < sign.length ∨ ds.isEmpty then none else some (e :: (sign ++ ds), rest)
      else some ([], e :: cs)

/-- Reads a number without its sign. -/
def readUnsigned (negative : Bool) (cs : List Char) : Option (Data × List Char) := do
  let (whole, rest) := spanDigits cs
  if whole.isEmpty ∨ (whole.head? = some '0' ∧ whole ≠ ['0']) then none
  else
    let (fraction, rest) ← readFraction rest
    let (exponent, rest) ← readExponent rest
    if fraction.isEmpty ∧ exponent.isEmpty ∧ ¬ (negative ∧ whole = ['0']) then
      let n : Int := Text.ofDigits whole
      return (.int (if negative then -n else n), rest)
    else
      let sign := if negative then ['-'] else []
      return (.other (String.ofList (sign ++ whole ++ fraction ++ exponent)), rest)

def readNumber : List Char → Option (Data × List Char)
  | '-' :: cs => readUnsigned true cs
  | cs => readUnsigned false cs

/-- The rest after a word, if the text starts with it. -/
def afterWord? : List Char → List Char → Option (List Char)
  | [], cs => some cs
  | w :: ws, c :: cs => if w = c then afterWord? ws cs else none
  | _ :: _, [] => none

mutual

def readValue : Nat → List Char → Option (Data × List Char)
  | 0, _ => none
  | fuel + 1, cs =>
      match skipSpace cs with
      | '"' :: cs => (readText cs).map fun r => ((r.1.map .text).getD (unread cs r.2), r.2)
      | '[' :: cs =>
          match skipSpace cs with
          | ']' :: cs => some (.list [], cs)
          | cs => (readItems fuel cs).map fun r => (.list r.1, r.2)
      | '\x7b' :: cs =>
          match skipSpace cs with
          | '\x7d' :: cs => some (.table [], cs)
          | cs => (readFields fuel cs).map fun r => ((table? r.1).getD (unread cs r.2), r.2)
      | 'n' :: cs => (afterWord? ['u', 'l', 'l'] cs).map fun r => (.null, r)
      | 't' :: cs => (afterWord? ['r', 'u', 'e'] cs).map fun r => (.bool true, r)
      | 'f' :: cs => (afterWord? ['a', 'l', 's', 'e'] cs).map fun r => (.bool false, r)
      | cs => readNumber cs

def readItems : Nat → List Char → Option (List Data × List Char)
  | 0, _ => none
  | fuel + 1, cs =>
      match readValue fuel cs with
      | none => none
      | some (d, cs) =>
          match skipSpace cs with
          | ']' :: cs => some ([d], cs)
          | ',' :: cs => (readItems fuel cs).map fun r => (d :: r.1, r.2)
          | _ => none

def readFields : Nat → List Char → Option (List (Option String × Data) × List Char)
  | 0, _ => none
  | fuel + 1, cs =>
      match skipSpace cs with
      | '"' :: cs =>
          match readText cs with
          | none => none
          | some (k, cs) =>
              match skipSpace cs with
              | ':' :: cs =>
                  match readValue fuel cs with
                  | none => none
                  | some (d, cs) =>
                      match skipSpace cs with
                      | '\x7d' :: cs => some ([(k, d)], cs)
                      | ',' :: cs => (readFields fuel cs).map fun r => ((k, d) :: r.1, r.2)
                      | _ => none
              | _ => none
      | _ => none

end

/-- The document that a text denotes, if the text is exactly one value. -/
def read? (s : String) : Option Data :=
  let cs := s.toList
  match readValue (2 * cs.length + 2) cs with
  | some (d, rest) => if (skipSpace rest).isEmpty then some d else none
  | none => none

end Json
end ApiGateway
