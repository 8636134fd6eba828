import ApiGateway.Config.Basic
import ApiGateway.Digest.Sha256
import ApiGateway.Duration.Basic
import ApiGateway.Http.Token
import ApiGateway.Text.Ascii
import ApiGateway.Text.Blank

/-!
# Cache policies and keys

Which answers of a route are kept, for how long, and in which region; and under which key. The
key of a call is the digest of its method, its route, its downstream path with the query, and
where the policy says so the digest of its body, with line ends between them.
-/

namespace ApiGateway
namespace Cache

/-- How the answers of a route are kept. -/
structure Policy where
  ttl : Duration
  region : String
  hashBody : Bool
deriving DecidableEq

/-- The region of a route without a configured one: the letters and digits of what it serves. -/
def derivedRegion (methods : List Method) (template : String) : String :=
  String.ofList
    (((methods.flatMap fun m => m.text.toList) ++ template.toList).filter
      Text.isAsciiAlphanumeric)

def Policy.ofConfig (c : Config.Cache) (methods : List Method) (template : String) : Policy :=
  let configured := Text.trim (c.region.getD "")
  { ttl := Duration.ofSecs c.ttlSeconds.toNat
    region := if configured.isEmpty then derivedRegion methods template else configured
    hashBody := c.hashBody }

/-- Only safe reads are kept. -/
def isCacheable (m : Method) : Bool :=
  m = .get || m = .head

/-- What the key of a call is the digest of. -/
def keyBytes (method : Method) (routeKey pathAndQuery : String) (body : Option Bytes) : Bytes :=
  let front :=
    Bytes.ofText method.text ++ 0x0A :: (Bytes.ofText routeKey ++ 0x0A :: Bytes.ofText pathAndQuery)
  match body with
  | none => front
  | some b => front ++ 0x0A :: Sha256.digest b

def key (method : Method) (routeKey pathAndQuery : String) (body : Option Bytes) : String :=
  Sha256.hexDigest (keyBytes method routeKey pathAndQuery body)

end Cache
end ApiGateway
