import ApiGateway.Data
import ApiGateway.Text.Bytes
import ApiGateway.Text.Numeral

/-!
# TOML scalars

Texts in their four spellings, whole numbers in four bases, fractional numbers, and dates. Every
reader takes the front of a text and gives the value and the rest, or nothing if the front is no
such value.

A whole number must fit into 64 bits with a sign. Fractional numbers are checked and kept as they
are written. A date becomes a table with one reserved field that holds its normal form.
-/

namespace ApiGateway
namespace Toml

def isNonAscii (c : Char) : Bool := 0x80 ≤ c.toNat

/-- A tab, or printable, so that it may stand in a comment. -/
def isPlain (c : Char) : Bool :=
  c == '\t' || (0x20 ≤ c.toNat && c.toNat ≤ 0x7E) || isNonAscii c

/-- The two blanks inside a line. -/
def isLineBlank (c : Char) : Bool := c == ' ' || c == '\t'

/-- The text after blanks inside the line. -/
def skipBlanks (cs : List Char) : List Char := cs.dropWhile isLineBlank

/-- The text after a line end. -/
def afterNewline? : List Char → Option (List Char)
  | '\n' :: cs => some cs
  | '\r' :: '\n' :: cs => some cs
  | _ => none

/-- The text after blanks and line ends; the number bounds the characters passed over. -/
def skipBlankLines : Nat → List Char → List Char
  | 0, cs => cs
  | n + 1, cs =>
      match afterNewline? (skipBlanks cs) with
      | some rest => skipBlankLines n rest
      | none => skipBlanks cs

/-- The character with a number that hexadecimal digits denote. -/
def scalar? (digits : List Char) : Option Char := do
  let values ← digits.mapM Bytes.hexValue?
  let n := values.foldl (fun n d => 16 * n + d) 0
  if n < 0xD800 ∨ (0xDFFF < n ∧ n < 0x110000) then some (Char.ofNat n) else none

/-- Takes exactly `n` characters. -/
def take? (n : Nat) (cs : List Char) : Option (List Char × List Char) :=
  if cs.length < n then none else some (cs.take n, cs.drop n)

/-- The character of an escape, from after the backslash. -/
def escape? : List Char → Option (Char × List Char)
  | 'b' :: cs => some ('\x08', cs)
  | 't' :: cs => some ('\t', cs)
  | 'n' :: cs => some ('\n', cs)
  | 'f' :: cs => some ('\x0c', cs)
  | 'r' :: cs => some ('\r', cs)
  | '"' :: cs => some ('"', cs)
  | '\\' :: cs => some ('\\', cs)
  | 'u' :: cs => do
      let (digits, rest) ← take? 4 cs
      return (← scalar? digits, rest)
  | 'U' :: cs => do
      let (digits, rest) ← take? 8 cs
      return (← scalar? digits, rest)
  | _ => none

/-- A text in double quotes, from after the opening one; the number bounds its length. -/
def basicText : Nat → List Char → Option (List Char × List Char)
  | 0, _ => none
  | _ + 1, '"' :: cs => some ([], cs)
  | n + 1, '\\' :: cs => do
      let (c, rest) ← escape? cs
      let (text, rest) ← basicText n rest
      return (c :: text, rest)
  | n + 1, c :: cs =>
      if isPlain c then (basicText n cs).map fun r => (c :: r.1, r.2) else none
  | _ + 1, [] => none

/-- A text in single quotes, from after the opening one. -/
def literalText (cs : List Char) : Option (List Char × List Char) :=
  let text := cs.takeWhile fun c => isPlain c && c != '\''
  match cs.drop text.length with
  | '\'' :: rest => some (text, rest)
  | _ => none

/--
The end of a text of several lines: three quotes, of which up to two more in front belong to the
text. Gives those and the rest.
-/
def closing? (quote : Char) (cs : List Char) : Option (List Char × List Char) :=
  let quotes := (cs.takeWhile (· == quote)).length
  if quotes < 3 then none
  else
    let extra := min (quotes - 3) 2
    some (List.replicate extra quote, cs.drop (3 + extra))

/-- The text after a backslash at the end of a line and the blanks and line ends after it. -/
def continuation? (cs : List Char) : Option (List Char) :=
  (afterNewline? (skipBlanks cs)).map fun rest => skipBlankLines (rest.length + 1) rest

/-- A text of several lines in double quotes, from after the opening ones. -/
def basicLines : Nat → List Char → Option (List Char × List Char)
  | 0, _ => none
  | n + 1, cs =>
      match closing? '"' cs with
      | some r => some r
      | none =>
          match cs with
          | '\\' :: rest =>
              match continuation? rest with
              | some rest => basicLines n rest
              | none => do
                  let (c, rest) ← escape? rest
                  let (text, rest) ← basicLines n rest
                  return (c :: text, rest)
          | c :: rest =>
              match afterNewline? cs with
              | some rest => (basicLines n rest).map fun r => ('\n' :: r.1, r.2)
              | none =>
                  if isPlain c then (basicLines n rest).map fun r => (c :: r.1, r.2) else none
          | [] => none

/-- A text of several lines in single quotes, from after the opening ones. -/
def literalLines : Nat → List Char → Option (List Char × List Char)
  | 0, _ => none
  | n + 1, cs =>
      match closing? '\'' cs with
      | some r => some r
      | none =>
          match cs with
          | c :: rest =>
              match afterNewline? cs with
              | some rest => (literalLines n rest).map fun r => ('\n' :: r.1, r.2)
              | none =>
                  if isPlain c then (literalLines n rest).map fun r => (c :: r.1, r.2) else none
          | [] => none

/-- The text after a line end directly behind the opening quotes. -/
def dropFirstNewline (cs : List Char) : List Char :=
  (afterNewline? cs).getD cs

/-- A text in any spelling. -/
def text? (cs : List Char) : Option (String × List Char) :=
  let bound := cs.length + 1
  let found := match cs with
    | '"' :: '"' :: '"' :: rest => basicLines bound (dropFirstNewline rest)
    | '\'' :: '\'' :: '\'' :: rest => literalLines bound (dropFirstNewline rest)
    | '"' :: rest => basicText bound rest
    | '\'' :: rest => literalText rest
    | _ => none
  found.map fun r => (String.ofList r.1, r.2)

/-- Digits with single underscores between them, from the first digit on, and the rest. -/
def spanGrouped (isDigit : Char → Bool) : List Char → List Char × List Char
  | '_' :: d :: cs =>
      if isDigit d then
        let (ds, rest) := spanGrouped isDigit cs
        (d :: ds, rest)
      else ([], '_' :: d :: cs)
  | c :: cs =>
      if isDigit c then
        let (ds, rest) := spanGrouped isDigit cs
        (c :: ds, rest)
      else ([], c :: cs)
  | [] => ([], [])

/-- Digits that begin with one, with single underscores between them. -/
def grouped? (isDigit : Char → Bool) (cs : List Char) : Option (List Char × List Char) :=
  match cs with
  | c :: _ => if isDigit c then some (spanGrouped isDigit cs) else none
  | [] => none

/-- The whole part of a decimal number: a zero alone, or digits that begin with another one. -/
def whole? : List Char → Option (List Char × List Char)
  | '0' :: cs => some (['0'], cs)
  | cs => grouped? Char.isDigit cs

/-- A sign, if there is one: whether it is a minus, and the rest. -/
def sign : List Char → Bool × List Char
  | '+' :: cs => (false, cs)
  | '-' :: cs => (true, cs)
  | cs => (false, cs)

def signed64? (n : Int) : Option Data :=
  if -9223372036854775808 ≤ n ∧ n ≤ 9223372036854775807 then some (.int n) else none

/-- A whole number after a mark for its base. -/
def based? (base : Nat) (cs : List Char) : Option (Data × List Char) := do
  let isDigit (c : Char) := match Bytes.hexValue? c with
    | some d => decide (d < base)
    | none => false
  let (digits, rest) ← grouped? isDigit cs
  let values ← digits.mapM Bytes.hexValue?
  let d ← signed64? (Int.ofNat (values.foldl (fun n d => base * n + d) 0))
  return (d, rest)

def integer? : List Char → Option (Data × List Char)
  | '0' :: 'x' :: cs => based? 16 cs
  | '0' :: 'o' :: cs => based? 8 cs
  | '0' :: 'b' :: cs => based? 2 cs
  | cs => do
      let (negative, cs) := sign cs
      let (digits, rest) ← whole? cs
      let n := Int.ofNat (Text.ofDigits digits)
      let d ← signed64? (if negative then -n else n)
      return (d, rest)

/--
Whether a positive decimal number rounds to infinity in double precision, that is, whether it
reaches the middle between the largest double and the power of two after it.
-/
def roundsToInfinity (whole fraction : List Char) (exponent : Int) : Bool :=
  let digits := (whole ++ fraction).dropWhile (· == '0')
  let scale : Int := exponent - fraction.length
  if digits.isEmpty then false
  else if 310 < digits.length + scale then true
  else if digits.length + scale < 309 then false
  else
    let limit := Nat.pow 2 1024 - Nat.pow 2 970
    if 0 ≤ scale then limit ≤ Text.ofDigits digits * Nat.pow 10 scale.toNat
    else limit * Nat.pow 10 (-scale).toNat ≤ Text.ofDigits digits

/-- The exponent of a fractional number, if there is one. -/
def exponent? : List Char → Option (Option Int × List Char)
  | [] => some (none, [])
  | c :: cs =>
      if c = 'e' ∨ c = 'E' then do
        let (negative, cs) := sign cs
        let (digits, rest) ← grouped? Char.isDigit cs
        let n := Int.ofNat (Text.ofDigits digits)
        return (some (if negative then -n else n), rest)
      else some (none, c :: cs)

/-- The fraction of a number, if there is one. -/
def fraction? : List Char → Option (Option (List Char) × List Char)
  | '.' :: cs => (grouped? Char.isDigit cs).map fun r => (some r.1, r.2)
  | cs => some (none, cs)

/-- A fractional number. -/
def fractional? (cs : List Char) : Option (Data × List Char) :=
  let (negative, rest) := sign cs
  match rest with
  | 'i' :: 'n' :: 'f' :: rest => some (.other "inf", rest)
  | 'n' :: 'a' :: 'n' :: rest => some (.other "nan", rest)
  | rest => do
      let (whole, rest) ← whole? rest
      let (fraction, rest) ← fraction? rest
      let (exponent, rest) ← exponent? rest
      if fraction.isNone ∧ exponent.isNone then none
      else if ! negative ∧ roundsToInfinity whole (fraction.getD []) (exponent.getD 0) then none
      else some (.other (String.ofList (cs.take (cs.length - rest.length))), rest)

def digits? (n low high : Nat) (cs : List Char) : Option (Nat × List Char) := do
  let (ds, rest) ← take? n cs
  if ds.all Char.isDigit ∧ low ≤ Text.ofDigits ds ∧ Text.ofDigits ds ≤ high then
    some (Text.ofDigits ds, rest)
  else none

/-- The rest after one given character. -/
def after? (c : Char) : List Char → Option (List Char)
  | d :: cs => if c = d then some cs else none
  | [] => none

def daysIn (year month : Nat) : Nat :=
  if month = 2 then if (year % 4 = 0 ∧ year % 100 ≠ 0) ∨ year % 400 = 0 then 29 else 28
  else if month ∈ [4, 6, 9, 11] then 30
  else 31

/-- A number in at least `n` digits. -/
def padded (n value : Nat) : String :=
  let s := toString value
  String.ofList (List.replicate (n - s.length) '0') ++ s

def date? (cs : List Char) : Option (String × List Char) := do
  let (year, cs) ← digits? 4 0 9999 cs
  let (month, cs) ← digits? 2 1 12 (← after? '-' cs)
  let (day, cs) ← digits? 2 1 (daysIn year month) (← after? '-' cs)
  return (padded 4 year ++ "-" ++ padded 2 month ++ "-" ++ padded 2 day, cs)

/-- A time of the day in its normal form; nanoseconds are the finest. -/
def time? (cs : List Char) : Option (String × List Char) := do
  let (hour, cs) ← digits? 2 0 23 cs
  let (minute, cs) ← digits? 2 0 59 (← after? ':' cs)
  let (second, cs) ← digits? 2 0 60 (← after? ':' cs)
  let front := padded 2 hour ++ ":" ++ padded 2 minute ++ ":" ++ padded 2 second
  match cs with
  | '.' :: rest =>
      let ds := rest.takeWhile Char.isDigit
      if ds.isEmpty then none
      else
        let kept := ((ds.take 9).reverse.dropWhile (· == '0')).reverse
        let shown := if kept.isEmpty then "" else "." ++ String.ofList kept
        return (front ++ shown, rest.drop ds.length)
  | _ => return (front, cs)

/-- An offset from universal time in its normal form, in which none at all has a plus. -/
def offset? : List Char → Option (String × List Char)
  | 'Z' :: cs => some ("Z", cs)
  | 'z' :: cs => some ("Z", cs)
  | c :: cs =>
      if c = '+' ∨ c = '-' then do
        let (hour, cs) ← digits? 2 0 23 cs
        let (minute, cs) ← digits? 2 0 59 (← after? ':' cs)
        let sign := if hour = 0 ∧ minute = 0 then "+" else String.ofList [c]
        return (sign ++ padded 2 hour ++ ":" ++ padded 2 minute, cs)
      else none
  | [] => none

/-- The time after a date, with or without an offset; nothing if there is none. -/
def timeAfterDate (cs : List Char) : String × List Char :=
  match cs with
  | c :: rest =>
      if c = 'T' ∨ c = 't' ∨ c = ' ' then
        match time? rest with
        | none => ("", cs)
        | some (time, rest) =>
            match offset? rest with
            | some (offset, rest) => ("T" ++ time ++ offset, rest)
            | none => ("T" ++ time, rest)
      else ("", cs)
  | [] => ("", cs)

/-- The reserved field that holds the normal form of a date. -/
def dateField : String := "$__toml_private_datetime"

def dateTime? (cs : List Char) : Option (Data × List Char) :=
  match date? cs with
  | some (date, rest) =>
      let (time, rest) := timeAfterDate rest
      some (.table [(dateField, .text (date ++ time))], rest)
  | none => (time? cs).map fun r => (.table [(dateField, .text r.1)], r.2)

/-- A number or a date. -/
def numeric? (cs : List Char) : Option (Data × List Char) :=
  ((dateTime? cs).or (fractional? cs)).or (integer? cs)

end Toml
end ApiGateway
