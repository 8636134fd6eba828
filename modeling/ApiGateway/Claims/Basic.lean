import ApiGateway.Error
import ApiGateway.Text.Blank

/-!
# Claims

What an authentication says about the caller: pairs of a type and a value, where a type may occur
more than once. A route may require values of some types, and one of a list of scopes; a scope
claim may name several scopes at once, with blanks between them.
-/

namespace ApiGateway

/-- The claims of one caller, in the order in which they were made. -/
structure Claims where
  pairs : List (String × String) := []

namespace Claims

def getAll (c : Claims) (type : String) : List String :=
  (c.pairs.filter (·.1 = type)).map (·.2)

def get? (c : Claims) (type : String) : Option String :=
  (c.getAll type).head?

/-- Whether nothing is claimed. -/
def isEmpty (c : Claims) : Bool := c.pairs.isEmpty

/-- The first required pair that no claim has. -/
def firstMissing? (c : Claims) (required : List (String × String)) : Option (String × String) :=
  required.find? fun r => ! (c.getAll r.1).contains r.2

/-- Whether a scope that the caller has is in the list. -/
def hasScope (c : Claims) (allowed : List String) : Bool :=
  (c.getAll "scope").any fun v => (Text.words v).any fun s => allowed.contains s

/-- Checks the claims against required pairs and allowed scopes; no allowed scopes allow all. -/
def authorise (c : Claims) (required : List (String × String)) (allowed : List String) :
    Except GatewayError Unit :=
  match c.firstMissing? required with
  | some r => .error (.unauthorised s!"claim '{r.1}' does not have the required value")
  | none =>
      if allowed.isEmpty || c.hasScope allowed then .ok ()
      else .error (.unauthorised "no allowed scope in claims")

end Claims

/-- How the callers of a route are authenticated. -/
structure AuthenticationPolicy where
  providerKey : String
  allowedScopes : List String
deriving DecidableEq

/-- The answer where no provider of identities is installed: every such route refuses. -/
def AuthenticationPolicy.noProvider (p : AuthenticationPolicy) : Except GatewayError Claims :=
  .error (.authenticationFailed
    s!"no authentication provider registered for '{p.providerKey}'")

end ApiGateway
