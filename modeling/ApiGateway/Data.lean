/-!
# Documents

The tree that a configuration file, a registry answer or an administrative answer denotes,
whatever text format it is written in. Fields of a table keep the order in which they were
written, and a name may occur more than once: it is for the reader of a record to refuse that.
-/

namespace ApiGateway

/-- The value of a document. -/
inductive Data
  | null
  | bool (value : Bool)
  | int (value : Int)
  /-- What no record takes, such as a fractional number; the written form is kept. -/
  | other (written : String)
  | text (value : String)
  | list (items : List Data)
  | table (fields : List (String × Data))

namespace Data

/-- An integer that is not negative. -/
def nat (n : Nat) : Data := .int n

/-- A text, or the absence of one. -/
def textOrNull : Option String → Data
  | none => .null
  | some s => .text s

def texts (ss : List String) : Data :=
  .list (ss.map .text)

end Data
end ApiGateway
