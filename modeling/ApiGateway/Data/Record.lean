import ApiGateway.Data
import ApiGateway.Text.Numeral

/-!
# Reading records from documents

A record is written as a table of named fields, or as a list of its fields in their order, which
may stop early. Fields with unknown names are passed over; a known name may occur only once. The
text format decides whether a list may go on after the last field.

A field is required, or has a default that stands in when it is missing, or is optional, so that
`null` also means that there is none. A collection may be written as `null` when it is empty.
-/

namespace ApiGateway
namespace Data

/-- The known fields of a record that are present. -/
abbrev Record := List (String × Data)

/-- What becomes of items after the last field of a record that is written as a list. -/
inductive Surplus
  | refused
  | ignored
deriving DecidableEq

/-- The fields of a record whose names in order are given. -/
def record? (d : Data) (names : List String) (surplus : Surplus := .refused) : Option Record :=
  match d with
  | .table fields =>
      let known := fields.filter fun f => names.contains f.1
      if (known.map (·.1)).Nodup then some known else none
  | .list items =>
      if surplus = .ignored ∨ items.length ≤ names.length then some (names.zip items) else none
  | _ => none

namespace Record

variable {α : Type}

/-- A field that must be there. -/
def required (r : Record) (name : String) (read : Data → Option α) : Option α :=
  (r.lookup name).bind read

/-- A field with a default. -/
def orDefault (r : Record) (name : String) (default : α) (read : Data → Option α) : Option α :=
  match r.lookup name with
  | none => some default
  | some d => read d

/-- A field that may be missing or `null`. -/
def optional (r : Record) (name : String) (read : Data → Option α) : Option (Option α) :=
  match r.lookup name with
  | none => some none
  | some .null => some none
  | some d => (read d).map some

/-- A collection that may be missing or `null` when it is empty. -/
def collection (r : Record) (name : String) (empty : α) (read : Data → Option α) : Option α :=
  match r.lookup name with
  | none => some empty
  | some .null => some empty
  | some d => read d

end Record

def text? : Data → Option String
  | .text s => some s
  | _ => none

def bool? : Data → Option Bool
  | .bool b => some b
  | _ => none

/-- A whole number that is at most `bound`. -/
def nat? (bound : Nat) : Data → Option Nat
  | .int n => if 0 ≤ n ∧ n.toNat ≤ bound then some n.toNat else none
  | _ => none

def uint16? (d : Data) : Option UInt16 := (d.nat? 65535).map UInt16.ofNat

def uint32? (d : Data) : Option UInt32 := (d.nat? 4294967295).map UInt32.ofNat

def uint64? (d : Data) : Option UInt64 := (d.nat? Text.max64).map UInt64.ofNat

def list? {α : Type} (read : Data → Option α) : Data → Option (List α)
  | .list items => items.mapM read
  | _ => none

/-- A table of texts, as pairs in the order in which they are written. -/
def textPairs? : Data → Option (List (String × String))
  | .table fields => fields.mapM fun f => (text? f.2).map fun s => (f.1, s)
  | _ => none

end Data
end ApiGateway
