import ApiGateway.Config.Reader
import ApiGateway.Config.Validation
import ApiGateway.Json.Reader
import ApiGateway.Toml.Reader

/-!
# Loading a configuration

A configuration comes from a file whose name tells its format, or is empty if there is no file.
Some settings for the whole gateway can be overridden by environment variables. What comes of it
must keep all rules.
-/

namespace ApiGateway
namespace Config

/-- Why no configuration was loaded or taken. -/
inductive Fault
  /-- The file could not be read as text. -/
  | unreadable
  | toml
  | json
  | unsupportedFormat (extension : String)
  | noExtension
  | violation (v : Violation)
  | gateway (cause : GatewayError)

def Fault.message : Fault → String
  | unreadable => "the configuration file cannot be read as text"
  | toml => "the configuration file is not a valid TOML configuration"
  | json => "the configuration file is not a valid JSON configuration"
  | unsupportedFormat e => s!"unsupported config format: .{e}, use .toml or .json"
  | noExtension => "config file has no extension, use .toml or .json"
  | violation v => v.message
  | gateway e => e.message

/--
The part of a file name after its last point; a name that has no point, or its only one in
front, has no such part.
-/
def extension? (fileName : String) : Option String :=
  let base := (fileName.toList.reverse.takeWhile (· ≠ '/')).reverse
  let back := (base.reverse.takeWhile (· ≠ '.')).reverse
  if base.length ≤ back.length + 1 ∨ base = ['.', '.'] then none
  else some (String.ofList back)

/--
Reads the text of a file in the format that its name tells. A record that is written as a list may
go on after its last field in TOML, and may not in JSON.
-/
def parse (fileName text : String) : Except Fault Gateway :=
  match extension? fileName with
  | some "toml" =>
      (((Toml.read? text).bind (Gateway.ofData? · .ignored)).map .ok).getD (.error .toml)
  | some "json" =>
      (((Json.read? text).bind (Gateway.ofData? · .refused)).map .ok).getD (.error .json)
  | some e => .error (.unsupportedFormat e)
  | none => .error .noExtension

/-- Overrides the settings of the service registry. -/
def overrideDiscovery (env : String → Option String) (s : Option ServiceDiscovery) :
    Option ServiceDiscovery :=
  let s := match env "SLUICE_CONSUL_ADDRESS" with
    | some address => some { s.getD {} with address }
    | none => s
  s.map fun s =>
    { s with
      token := (env "SLUICE_CONSUL_TOKEN").or s.token
      datacenter := (env "SLUICE_CONSUL_DATACENTER").or s.datacenter }

/-- Overrides settings by environment variables; a number that cannot be read changes nothing. -/
def Gateway.override (env : String → Option String) (c : Gateway) : Gateway :=
  let limit := c.global.rateLimit
  { c with global :=
    { c.global with
      requestIdKey := (env "SLUICE_REQUEST_ID_KEY").or c.global.requestIdKey
      maxBodyBytes :=
        (((env "SLUICE_MAX_BODY_BYTES").bind Text.natural64?).map UInt64.ofNat).getD
          c.global.maxBodyBytes
      serviceDiscovery := overrideDiscovery env c.global.serviceDiscovery
      rateLimit :=
        { limit with
          clientIdHeader :=
            (env "SLUICE_RATE_LIMIT_CLIENT_ID_HEADER").getD limit.clientIdHeader
          disableHeaders :=
            ((env "SLUICE_RATE_LIMIT_DISABLE_HEADERS").map fun v => v = "true" || v = "1").getD
              limit.disableHeaders } } }

/-- Loads a configuration; there may be no file. -/
def load (fileName : String) (content : Option Bytes) (env : String → Option String) :
    Except Fault Gateway := do
  let c ← match content with
    | none => pure {}
    | some bytes =>
        match bytes.text? with
        | none => .error .unreadable
        | some text => parse fileName text
  let c := c.override env
  c.validate.mapError .violation
  return c

end Config
end ApiGateway
