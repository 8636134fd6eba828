import ApiGateway.Http.Message
import ApiGateway.Json.Printer

/-!
# Refusals

Why the gateway refuses a request or a configuration, and how a refusal is answered. Each cause
has a short name for logs, a status, and a wording. The answer carries the wording as JSON,
except that an exhausted quota is told in plain text, since its wording is configured.
-/

namespace ApiGateway

/-- A cause for which a request or a configuration is refused. -/
inductive GatewayError
  | routeNotFound
  | methodNotAllowed (allowed : List String)
  | badRequest (detail : String)
  | payloadTooLarge (limit : Nat)
  | rateLimited (quota : String) (status : Nat)
  | authenticationFailed (detail : String)
  | unauthorised (detail : String)
  | noServiceAvailable (detail : String)
  | downstreamTimeout
  | downstreamTransport (detail : String)
  | circuitOpen (scope : String)
  | cacheUnavailable (detail : String)
  | discovery (detail : String)
  /-- A call of the gateway itself, to the service registry, failed on its way. -/
  | http (detail : String)
  | config (detail : String)
  | internal (detail : String)
deriving DecidableEq

namespace GatewayError

/-- The short name of the cause. -/
def kind : GatewayError → String
  | routeNotFound => "route_not_found"
  | methodNotAllowed _ => "method_not_allowed"
  | badRequest _ => "bad_request"
  | payloadTooLarge _ => "payload_too_large"
  | rateLimited _ _ => "rate_limited"
  | authenticationFailed _ => "authentication_failed"
  | unauthorised _ => "unauthorised"
  | noServiceAvailable _ => "no_service_available"
  | downstreamTimeout => "downstream_timeout"
  | downstreamTransport _ => "downstream_transport"
  | circuitOpen _ => "circuit_open"
  | cacheUnavailable _ => "cache_unavailable"
  | discovery _ => "discovery"
  | http _ => "http"
  | config _ => "config"
  | internal _ => "internal"

/-- The status of the answer; a configured number that is no status becomes 429. -/
def status : GatewayError → Nat
  | routeNotFound => 404
  | methodNotAllowed _ => 405
  | badRequest _ => 400
  | payloadTooLarge _ => 413
  | rateLimited _ s => if Status.isValid s then s else 429
  | authenticationFailed _ => 401
  | unauthorised _ => 403
  | noServiceAvailable _ => 503
  | downstreamTimeout => 503
  | downstreamTransport _ => 502
  | circuitOpen _ => 503
  | cacheUnavailable _ => 500
  | discovery _ => 503
  | http _ => 500
  | config _ => 500
  | internal _ => 500

def message : GatewayError → String
  | routeNotFound => "no route found"
  | methodNotAllowed allowed => "method not allowed, allowed=" ++ String.intercalate "," allowed
  | badRequest d => "bad request: " ++ d
  | payloadTooLarge limit => s!"request body exceeds {limit} bytes"
  | rateLimited quota _ => quota
  | authenticationFailed d => "authentication failed: " ++ d
  | unauthorised d => "unauthorised: " ++ d
  | noServiceAvailable d => "no services available: " ++ d
  | downstreamTimeout => "downstream timeout"
  | downstreamTransport d => "downstream transport error: " ++ d
  | circuitOpen scope => "circuit open: " ++ scope
  | cacheUnavailable d => "cache unavailable: " ++ d
  | discovery d => "service discovery error: " ++ d
  | http d => "http error: " ++ d
  | config d => "config error: " ++ d
  | internal d => "internal error: " ++ d

end GatewayError

namespace Response

/-- A response with a content type and a text as its body. -/
def ofText (status : Nat) (contentType body : String) : Response :=
  ⟨status, ⟨[(HeaderName.contentType, Bytes.ofText contentType)]⟩, Bytes.ofText body⟩

/-- A response with a JSON document as its body. -/
def ofData (status : Nat) (d : Data) : Response :=
  ofText status "application/json" (Json.compact d)

/-- The answer to a refusal. A method that is not allowed is told which ones are. -/
def ofError (e : GatewayError) : Response :=
  match e with
  | .rateLimited quota _ => ofText e.status "text/plain; charset=utf-8" quota
  | .methodNotAllowed allowed =>
      let r := ofData e.status (.table [("error", .text e.message)])
      { r with headers := r.headers.setText .allow (String.intercalate ", " allowed) }
  | _ => ofData e.status (.table [("error", .text e.message)])

/-- The answer to the refusals of a request: the first one counts. -/
def ofErrors : List GatewayError → Response
  | [] => ofData 500 (.table [("error", .text "internal error")])
  | e :: _ => ofError e

end Response
end ApiGateway
