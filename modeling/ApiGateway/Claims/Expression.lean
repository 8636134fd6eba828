import ApiGateway.Claims.Basic
import ApiGateway.Text.Numeral
import ApiGateway.Text.Occurrence

/-!
# Claims expressions

An expression says which part of a claim is passed on to a backend, in a header or in a query
parameter. `Claims[sub] > value` takes the first claim of a type as it is;
`Claims[loc] > value[1] > |` takes the second of the pieces between the delimiters. Blanks around
the parts do not count, and the delimiter may itself hold the sign that separates the parts.
-/

namespace ApiGateway

/-- Which piece of a claim is taken. -/
structure ClaimPiece where
  index : Nat
  delimiter : String
deriving DecidableEq

/-- A claim, or a piece of one, that is passed on under a key. -/
structure ClaimsExpression where
  key : String
  claim : String
  piece : Option ClaimPiece
deriving DecidableEq

namespace ClaimsExpression

/-- The text before and after the first `>`. -/
def cutPart : List Char → List Char × Option (List Char)
  | [] => ([], none)
  | c :: cs => if c = '>' then ([], some cs) else ((cutPart cs).map (c :: ·) id)

/-- The part before the first `>`, the part before the second, and the rest; all trimmed. -/
def parts (cs : List Char) : List Char × Option (List Char) × Option (List Char) :=
  let (first, rest) := cutPart cs
  match rest with
  | none => (Text.trimChars first, none, none)
  | some rest =>
      let (second, rest) := cutPart rest
      (Text.trimChars first, some (Text.trimChars second), rest.map Text.trimChars)

/-- The text after an opening. -/
def after? : List Char → List Char → Option (List Char)
  | [], cs => some cs
  | o :: os, c :: cs => if o = c then after? os cs else none
  | _ :: _, [] => none

/-- The text between an opening and a closing bracket at the very end. -/
def bracketed? (opening cs : List Char) : Option (List Char) := do
  let inner ← after? opening cs
  if inner.getLast? = some ']' then some inner.dropLast else none

/-- The type named by the first part: not empty and free of brackets. -/
def claimName? (cs : List Char) : Option (List Char) := do
  let name ← bracketed? "Claims[".toList cs
  if name.isEmpty || name.any (fun c => c = '[' || c = ']') then none else some name

/-- The second part: the whole value, or the index of a piece. -/
def index? (cs : List Char) : Option (Option Nat) :=
  if cs = "value".toList then some none
  else do
    let inner ← bracketed? "value[".toList cs
    let i ← Text.natural? Text.max64 (Text.trimChars inner)
    return some i

/-- The parts of an expression: an index and a delimiter come together or not at all. -/
def read? (key : String) (cs : List Char) : Option ClaimsExpression := do
  let (first, second, third) := parts cs
  let claim ← claimName? first
  let index ← index? (← second)
  let delimiter := third.filter fun d => ! d.isEmpty
  match index, delimiter with
  | none, none => return ⟨key, String.ofList claim, none⟩
  | some i, some d => return ⟨key, String.ofList claim, some ⟨i, String.ofList d⟩⟩
  | _, _ => none

def parse (key expression : String) : Except GatewayError ClaimsExpression :=
  match read? key expression.toList with
  | some e => .ok e
  | none => .error (.config s!"invalid claims expression for '{key}': '{expression}'")

def render (e : ClaimsExpression) : String :=
  match e.piece with
  | none => s!"Claims[{e.claim}] > value"
  | some p => s!"Claims[{e.claim}] > value[{p.index}] > {p.delimiter}"

/-- The value that an expression takes from the claims of a caller. -/
def extract (e : ClaimsExpression) (c : Claims) : Except GatewayError String :=
  match c.get? e.claim with
  | none => .error (.internal s!"claim '{e.claim}' not found for '{e.key}'")
  | some value =>
      match e.piece with
      | none => .ok value
      | some p =>
          match (Text.splitAtText p.delimiter value)[p.index]? with
          | some s => .ok (Text.trim s)
          | none =>
              .error (.internal
                s!"claim '{e.claim}' has no piece {p.index} split by '{p.delimiter}'")

end ClaimsExpression
end ApiGateway
