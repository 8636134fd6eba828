/-!
# Tokens of the message head

Methods and header names are made of the same characters: ASCII letters, digits and fifteen
signs.
-/

namespace ApiGateway

/-- A character that a method or a header name may hold. -/
def isTokenChar (c : Char) : Bool :=
  c.isAlphanum || "!#$%&'*+-.^_`|~".toList.contains c

/-- A request method, case-sensitive. -/
structure Method where
  text : String
deriving DecidableEq

namespace Method

/-- The method that a text denotes: at least one character, all of them token characters. -/
def ofText? (s : String) : Option Method :=
  if s.toList.isEmpty || ! s.toList.all isTokenChar then none else some ⟨s⟩

def get : Method := ⟨"GET"⟩

def head : Method := ⟨"HEAD"⟩

def delete : Method := ⟨"DELETE"⟩

end Method
end ApiGateway
