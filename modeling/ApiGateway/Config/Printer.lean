import ApiGateway.Config.Basic
import ApiGateway.Data

/-!
# Writing a configuration as a document

Every field is written, also those that hold their default, and `null` stands for an option that
is not set.
-/

namespace ApiGateway
namespace Config

/-- A value, or `null` for none. -/
def orNull {α : Type} (write : α → Data) : Option α → Data
  | none => .null
  | some a => write a

/-- A dictionary of texts. -/
def dictionaryData (d : Dictionary) : Data :=
  .table (d.pairs.map fun p => (p.1, .text p.2))

def ServiceDiscovery.toData (c : ServiceDiscovery) : Data :=
  .table [
    ("type", .text c.provider),
    ("address", .text c.address),
    ("datacenter", .textOrNull c.datacenter),
    ("token", .textOrNull c.token),
    ("poll_interval_secs", .nat c.pollIntervalSecs.toNat)]

def RateLimitGlobal.toData (c : RateLimitGlobal) : Data :=
  .table [
    ("client_id_header", .text c.clientIdHeader),
    ("quota_exceeded_message", .textOrNull c.quotaExceededMessage),
    ("counter_prefix", .text c.counterPrefix),
    ("disable_rate_limit_headers", .bool c.disableHeaders),
    ("http_status_code", .nat c.statusCode.toNat)]

def Downstream.toData (c : Downstream) : Data :=
  .table [
    ("connect_timeout_secs", .nat c.connectTimeoutSecs.toNat),
    ("pool_idle_timeout_secs", .nat c.poolIdleTimeoutSecs.toNat),
    ("pool_max_idle_per_host", .nat c.poolMaxIdlePerHost.toNat),
    ("danger_accept_invalid_certs", .bool c.acceptInvalidCerts)]

def Global.toData (c : Global) : Data :=
  .table [
    ("request_id_key", .textOrNull c.requestIdKey),
    ("max_body_bytes", .nat c.maxBodyBytes.toNat),
    ("service_discovery", orNull ServiceDiscovery.toData c.serviceDiscovery),
    ("rate_limit", c.rateLimit.toData),
    ("downstream", c.downstream.toData)]

def HostAndPort.toData (c : HostAndPort) : Data :=
  .table [("host", .text c.host), ("port", .nat c.port.toNat)]

def RateLimit.toData (c : RateLimit) : Data :=
  .table [
    ("enable_rate_limiting", .bool c.enabled),
    ("client_whitelist", .texts c.clientWhitelist),
    ("period", .text c.period),
    ("limit", .nat c.limit.toNat)]

def Cache.toData (c : Cache) : Data :=
  .table [
    ("ttl_seconds", .nat c.ttlSeconds.toNat),
    ("region", .textOrNull c.region),
    ("hash_body", .bool c.hashBody)]

def Qos.toData (c : Qos) : Data :=
  .table [
    ("exceptions_allowed_before_breaking", .nat c.exceptionsAllowed.toNat),
    ("duration_of_break_ms", .nat c.breakMs.toNat),
    ("timeout_value_ms", .nat c.timeoutMs.toNat),
    ("half_open_trials", .nat c.halfOpenTrials.toNat),
    ("failure_window_ms", .nat c.failureWindowMs.toNat),
    ("scope", .text c.scope)]

def Authentication.toData (c : Authentication) : Data :=
  .table [
    ("authentication_provider_key", .text c.providerKey),
    ("allowed_scopes", .texts c.allowedScopes)]

def Route.toData (c : Route) : Data :=
  .table [
    ("upstream_path_template", .text c.upstreamPathTemplate),
    ("upstream_http_method", .texts c.upstreamHttpMethod),
    ("downstream_path_template", .text c.downstreamPathTemplate),
    ("downstream_scheme", .text c.downstreamScheme),
    ("downstream_host_and_ports", .list (c.downstreamHosts.map HostAndPort.toData)),
    ("service_name", .textOrNull c.serviceName),
    ("load_balancer", .text c.loadBalancer),
    ("downstream_http_method", .textOrNull c.downstreamHttpMethod),
    ("rate_limit", orNull RateLimit.toData c.rateLimit),
    ("cache", orNull Cache.toData c.cache),
    ("qos", orNull Qos.toData c.qos),
    ("authentication", orNull Authentication.toData c.authentication),
    ("route_claims_requirement", dictionaryData c.claimsRequirement),
    ("add_headers_to_request", dictionaryData c.addHeaders),
    ("add_queries_to_request", dictionaryData c.addQueries),
    ("request_id_key", .textOrNull c.requestIdKey)]

def Gateway.toData (c : Gateway) : Data :=
  .table [("global", c.global.toData), ("routes", .list (c.routes.map Route.toData))]

end Config
end ApiGateway
