import ApiGateway.Route.Basic

/-!
# Route tables

The routes of a gateway in the order in which they are tried. A request takes the first route
whose template matches its path and that takes its method. If templates match but no method does,
the methods of all those routes are allowed.
-/

namespace ApiGateway

/-- The routes in the order in which they are tried. -/
structure RouteTable where
  routes : List Route := []

/-- A route that was found for a request. -/
structure ResolvedRoute where
  route : Route
  pathMatch : PathMatch
  downstreamPath : String

namespace RouteTable

/-- Makes routes one after another; no key may occur twice. -/
def compileFrom (generation : Nat) (global : Config.Global) :
    List String → List Config.Route → Except GatewayError (List Route)
  | _, [] => .ok []
  | seen, c :: cs => do
      let r ← Route.compile generation global c
      if seen.contains r.key then .error (.config s!"duplicate route '{r.key}'")
      else return r :: (← compileFrom generation global (r.key :: seen) cs)

/-- Makes a table from a configuration. -/
def compile (generation : Nat) (c : Config.Gateway) : Except GatewayError RouteTable := do
  return ⟨← compileFrom generation c.global [] c.routes⟩

/-- The methods with those of a route that are not among them yet. -/
def addAllowed (allowed : List String) (r : Route) : List String :=
  r.methods.foldl
    (fun ms m => if ms.contains m.text then ms else ms ++ [m.text]) allowed

/-- Finds a route, given the methods that earlier routes would have allowed. -/
def resolveFrom (method : Method) (path : String) :
    List String → List Route → Except GatewayError ResolvedRoute
  | allowed, [] =>
      if allowed.isEmpty then .error .routeNotFound else .error (.methodNotAllowed allowed)
  | allowed, r :: rs =>
      match r.upstream.match? path with
      | none => resolveFrom method path allowed rs
      | some m =>
          if r.allows method then do
            return ⟨r, m, ← Template.substitute r.downstreamTemplate m⟩
          else resolveFrom method path (addAllowed allowed r) rs

def resolve (t : RouteTable) (method : Method) (path : String) :
    Except GatewayError ResolvedRoute :=
  resolveFrom method path [] t.routes

end RouteTable
end ApiGateway
