import ApiGateway.Duration.Reader
import ApiGateway.Error

/-!
# Rate-limit periods

The length of a quota window as it is written in a configuration: a positive length of time, with
blanks around it that do not count.
-/

namespace ApiGateway
namespace RateLimit

def parsePeriod (s : String) : Except GatewayError Duration :=
  match Duration.read (Text.trim s) with
  | .error f => .error (.config s!"invalid period '{s}': {f.message}")
  | .ok d => if d = 0 then .error (.config s!"period '{s}' must be positive") else .ok d

end RateLimit
end ApiGateway
