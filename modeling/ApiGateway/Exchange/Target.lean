import ApiGateway.Exchange.Basic
import ApiGateway.Text.Percent

/-!
# The target at the backend

The downstream path of the route with a query. Of the inbound query, the pieces between ampersands
are kept as they are, except those whose name is taken by a claim of the caller; the claims follow
in the order of their keys, percent-encoded.
-/

namespace ApiGateway
namespace Exchange

/-- The pieces of a query between ampersands, without empty ones. -/
def queryPieces (query : String) : List String :=
  (Text.splitAtChar '&' query).filter (! ·.isEmpty)

/-- The name of a piece as it is written: what stands in front of the first equals sign. -/
def pieceName (piece : String) : String :=
  String.ofList (piece.toList.takeWhile (· ≠ '='))

/-- The pieces of the inbound query whose name no claim takes. -/
def keptPieces (keys : List String) (query : String) : List String :=
  (queryPieces query).filter fun p => ! keys.contains (pieceName p)

/-- The piece of a query that passes a claim on. -/
def claimPiece (claims : Claims) (e : ClaimsExpression) : Except GatewayError String := do
  let value ← e.extract claims
  return Percent.encode e.key ++ "=" ++ Percent.encode value

/-- A path with the pieces of a query. -/
def joinTarget (path : String) (pieces : List String) : String :=
  if pieces.isEmpty then path else path ++ "?" ++ String.intercalate "&" pieces

def targetOf (r : ResolvedRoute) (query : Option String) (claims : Claims) :
    Except GatewayError String := do
  let added ← r.route.queriesFromClaims.mapM (claimPiece claims)
  let kept := keptPieces (r.route.queriesFromClaims.map (·.key)) (query.getD "")
  return joinTarget r.downstreamPath (kept ++ added)

def target (x : Exchange) : Except GatewayError String := do
  targetOf (← x.route) x.request.uri.query x.callerClaims

end Exchange
end ApiGateway
