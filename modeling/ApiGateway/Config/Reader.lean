import ApiGateway.Config.Basic
import ApiGateway.Data.Record

/-!
# Reading a configuration from a document

One reader for each kind of record, with the names of its fields in their order. A reader gives
nothing if a required field is missing, a value has the wrong kind, or a number is out of range.
-/

namespace ApiGateway
namespace Config

open Data

/-- A dictionary of texts. -/
def dictionary? (d : Data) : Option Dictionary :=
  d.textPairs?.map Dictionary.ofPairs

def ServiceDiscovery.ofData? (d : Data) (surplus : Surplus := .refused) :
    Option ServiceDiscovery := do
  let r ← d.record? ["type", "address", "datacenter", "token", "poll_interval_secs"] surplus
  let default : ServiceDiscovery := {}
  return {
    provider := ← r.orDefault "type" default.provider text?
    address := ← r.orDefault "address" default.address text?
    datacenter := ← r.optional "datacenter" text?
    token := ← r.optional "token" text?
    pollIntervalSecs := ← r.orDefault "poll_interval_secs" default.pollIntervalSecs uint64? }

def RateLimitGlobal.ofData? (d : Data) (surplus : Surplus := .refused) :
    Option RateLimitGlobal := do
  let r ← d.record? ["client_id_header", "quota_exceeded_message", "counter_prefix",
    "disable_rate_limit_headers", "http_status_code"] surplus
  let default : RateLimitGlobal := {}
  return {
    clientIdHeader := ← r.orDefault "client_id_header" default.clientIdHeader text?
    quotaExceededMessage := ← r.optional "quota_exceeded_message" text?
    counterPrefix := ← r.orDefault "counter_prefix" default.counterPrefix text?
    disableHeaders := ← r.orDefault "disable_rate_limit_headers" default.disableHeaders bool?
    statusCode := ← r.orDefault "http_status_code" default.statusCode uint16? }

def Downstream.ofData? (d : Data) (surplus : Surplus := .refused) : Option Downstream := do
  let r ← d.record? ["connect_timeout_secs", "pool_idle_timeout_secs", "pool_max_idle_per_host",
    "danger_accept_invalid_certs"] surplus
  let default : Downstream := {}
  return {
    connectTimeoutSecs := ←
      r.orDefault "connect_timeout_secs" default.connectTimeoutSecs uint64?
    poolIdleTimeoutSecs := ←
      r.orDefault "pool_idle_timeout_secs" default.poolIdleTimeoutSecs uint64?
    poolMaxIdlePerHost := ←
      r.orDefault "pool_max_idle_per_host" default.poolMaxIdlePerHost uint64?
    acceptInvalidCerts := ←
      r.orDefault "danger_accept_invalid_certs" default.acceptInvalidCerts bool? }

def Global.ofData? (d : Data) (surplus : Surplus := .refused) : Option Global := do
  let r ← d.record? ["request_id_key", "max_body_bytes", "service_discovery", "rate_limit",
    "downstream"] surplus
  let default : Global := {}
  return {
    requestIdKey := ← r.optional "request_id_key" text?
    maxBodyBytes := ← r.orDefault "max_body_bytes" default.maxBodyBytes uint64?
    serviceDiscovery := ← r.optional "service_discovery" (ServiceDiscovery.ofData? · surplus)
    rateLimit := ← r.orDefault "rate_limit" default.rateLimit (RateLimitGlobal.ofData? · surplus)
    downstream := ← r.orDefault "downstream" default.downstream (Downstream.ofData? · surplus) }

def HostAndPort.ofData? (d : Data) (surplus : Surplus := .refused) : Option HostAndPort := do
  let r ← d.record? ["host", "port"] surplus
  return { host := ← r.required "host" text?, port := ← r.required "port" uint16? }

def RateLimit.ofData? (d : Data) (surplus : Surplus := .refused) : Option RateLimit := do
  let r ← d.record? ["enable_rate_limiting", "client_whitelist", "period", "limit"] surplus
  return {
    enabled := ← r.orDefault "enable_rate_limiting" true bool?
    clientWhitelist := ← r.collection "client_whitelist" [] (list? text?)
    period := ← r.required "period" text?
    limit := ← r.required "limit" uint64? }

def Cache.ofData? (d : Data) (surplus : Surplus := .refused) : Option Cache := do
  let r ← d.record? ["ttl_seconds", "region", "hash_body"] surplus
  return {
    ttlSeconds := ← r.required "ttl_seconds" uint64?
    region := ← r.optional "region" text?
    hashBody := ← r.orDefault "hash_body" false bool? }

def Qos.ofData? (d : Data) (surplus : Surplus := .refused) : Option Qos := do
  let r ← d.record? ["exceptions_allowed_before_breaking", "duration_of_break_ms",
    "timeout_value_ms", "half_open_trials", "failure_window_ms", "scope"] surplus
  return {
    exceptionsAllowed := ← r.required "exceptions_allowed_before_breaking" uint32?
    breakMs := ← r.orDefault "duration_of_break_ms" 5000 uint64?
    timeoutMs := ← r.required "timeout_value_ms" uint64?
    halfOpenTrials := ← r.orDefault "half_open_trials" 1 uint32?
    failureWindowMs := ← r.orDefault "failure_window_ms" 60000 uint64?
    scope := ← r.orDefault "scope" "route" text? }

def Authentication.ofData? (d : Data) (surplus : Surplus := .refused) : Option Authentication := do
  let r ← d.record? ["authentication_provider_key", "allowed_scopes"] surplus
  return {
    providerKey := ← r.required "authentication_provider_key" text?
    allowedScopes := ← r.collection "allowed_scopes" [] (list? text?) }

def Route.ofData? (d : Data) (surplus : Surplus := .refused) : Option Route := do
  let r ← d.record? ["upstream_path_template", "upstream_http_method", "downstream_path_template",
    "downstream_scheme", "downstream_host_and_ports", "service_name", "load_balancer",
    "downstream_http_method", "rate_limit", "cache", "qos", "authentication",
    "route_claims_requirement", "add_headers_to_request", "add_queries_to_request",
    "request_id_key"] surplus
  return {
    upstreamPathTemplate := ← r.required "upstream_path_template" text?
    upstreamHttpMethod := ← r.collection "upstream_http_method" [] (list? text?)
    downstreamPathTemplate := ← r.required "downstream_path_template" text?
    downstreamScheme := ← r.orDefault "downstream_scheme" "http" text?
    downstreamHosts := ←
      r.collection "downstream_host_and_ports" [] (list? (HostAndPort.ofData? · surplus))
    serviceName := ← r.optional "service_name" text?
    loadBalancer := ← r.orDefault "load_balancer" "RoundRobin" text?
    downstreamHttpMethod := ← r.optional "downstream_http_method" text?
    rateLimit := ← r.optional "rate_limit" (RateLimit.ofData? · surplus)
    cache := ← r.optional "cache" (Cache.ofData? · surplus)
    qos := ← r.optional "qos" (Qos.ofData? · surplus)
    authentication := ← r.optional "authentication" (Authentication.ofData? · surplus)
    claimsRequirement := ← r.collection "route_claims_requirement" .empty dictionary?
    addHeaders := ← r.collection "add_headers_to_request" .empty dictionary?
    addQueries := ← r.collection "add_queries_to_request" .empty dictionary?
    requestIdKey := ← r.optional "request_id_key" text? }

def Gateway.ofData? (d : Data) (surplus : Surplus := .refused) : Option Gateway := do
  let r ← d.record? ["global", "routes"] surplus
  return {
    global := ← r.orDefault "global" {} (Global.ofData? · surplus)
    routes := ← r.collection "routes" [] (list? (Route.ofData? · surplus)) }

end Config
end ApiGateway
