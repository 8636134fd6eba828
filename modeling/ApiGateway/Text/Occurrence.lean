/-!
# Occurrences of a text in a text

Splitting at every occurrence of a separator, scanning from the left and never overlapping, and
replacing every occurrence by another text.
-/

namespace ApiGateway
namespace Text

/--
The pieces between the occurrences of `sep`. The number counts the characters of a separator
that are still to be passed over.
-/
def splitAtTextFrom (sep : List Char) : Nat → List Char → List (List Char)
  | _, [] => [[]]
  | n + 1, _ :: cs => splitAtTextFrom sep n cs
  | 0, c :: cs =>
      if sep.isPrefixOf (c :: cs) then [] :: splitAtTextFrom sep (sep.length - 1) cs
      else
        match splitAtTextFrom sep 0 cs with
        | [] => [[c]]
        | w :: ws => (c :: w) :: ws

/-- The pieces between the occurrences of a non-empty separator. -/
def splitAtText (sep s : String) : List String :=
  (splitAtTextFrom sep.toList 0 s.toList).map String.ofList

/-- The text with every occurrence of `old` replaced by `new`. -/
def replaceAll (old new s : String) : String :=
  String.intercalate new (splitAtText old s)

end Text
end ApiGateway
