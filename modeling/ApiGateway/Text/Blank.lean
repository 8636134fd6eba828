/-!
# Blanks

The characters with the Unicode property `White_Space`, and the two operations that texts read
from configuration and headers need of them: cutting them off at both ends, and splitting at
every one of them.

Everything works on lists of characters; the versions on `String` convert at the ends.
-/

namespace ApiGateway
namespace Text

/-- Membership in the Unicode property `White_Space`. -/
def isBlank (c : Char) : Bool :=
  let n := c.toNat
  (9 ≤ n && n ≤ 13) || n == 0x20 || n == 0x85 || n == 0xA0 || n == 0x1680
    || (0x2000 ≤ n && n ≤ 0x200A) || n == 0x2028 || n == 0x2029 || n == 0x202F
    || n == 0x205F || n == 0x3000

def trimChars (cs : List Char) : List Char :=
  ((cs.dropWhile isBlank).reverse.dropWhile isBlank).reverse

def trim (s : String) : String :=
  String.ofList (trimChars s.toList)

/-- The pieces between the characters that satisfy `p`; there is always at least one piece. -/
def splitWhere (p : Char → Bool) : List Char → List (List Char)
  | [] => [[]]
  | c :: cs =>
      if p c then [] :: splitWhere p cs
      else
        match splitWhere p cs with
        | [] => [[c]]
        | w :: ws => (c :: w) :: ws

/-- The non-empty pieces between blanks. -/
def words (s : String) : List String :=
  ((splitWhere isBlank s.toList).filter (! ·.isEmpty)).map String.ofList

/-- The pieces between the occurrences of one character. -/
def splitAtChar (c : Char) (s : String) : List String :=
  (splitWhere (· == c) s.toList).map String.ofList

/-- Splitting never gives an empty list of pieces. -/
theorem splitWhere_ne_nil (p : Char → Bool) (cs : List Char) : splitWhere p cs ≠ [] := by
  cases cs with
  | nil => simp [splitWhere]
  | cons c cs =>
      unfold splitWhere
      split
      · simp
      · split <;> simp

end Text
end ApiGateway
