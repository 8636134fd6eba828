/-!
# ASCII letters

Case changes that touch the ASCII letters only, and comparison of texts up to them.
-/

namespace ApiGateway
namespace Text

/-- The text with its ASCII capitals made small; all other characters stay. -/
def asciiLower (s : String) : String :=
  String.ofList (s.toList.map Char.toLower)

/-- The text with its small ASCII letters made capitals; all other characters stay. -/
def asciiUpper (s : String) : String :=
  String.ofList (s.toList.map Char.toUpper)

/-- Equality of two texts up to the case of ASCII letters. -/
def sameIgnoringCase (s t : String) : Bool :=
  asciiLower s == asciiLower t

def isAsciiAlphanumeric (c : Char) : Bool :=
  c.isAlphanum

end Text
end ApiGateway
