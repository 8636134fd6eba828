import ApiGateway.Text.Blank
import ApiGateway.Text.Ascii
import ApiGateway.Text.Numeral
import ApiGateway.Text.Occurrence
import ApiGateway.Text.Percent
import ApiGateway.Json.Printer
import ApiGateway.Json.Number
import ApiGateway.Digest.Sha256
import ApiGateway.Duration.Reader
import ApiGateway.Net.Ip
import ApiGateway.Http.Message
import ApiGateway.Http.Body
import ApiGateway.Error
import ApiGateway.Claims.Expression
import ApiGateway.Route.Substitution
import ApiGateway.Config.Printer
import ApiGateway.Config.Load
import ApiGateway.Discovery.Source
import ApiGateway.RateLimit.Limiter
import ApiGateway.Cache.Store
import ApiGateway.Qos.Call
import ApiGateway.Balancer.Registry
import ApiGateway.Route.Table
import ApiGateway.Metrics.Exposition
import ApiGateway.Exchange.Outbound
import ApiGateway.Gateway.Administration
import ApiGateway.Run.Conduct
import ApiGateway.Http.Wire
import ApiGateway.CommandLine
import ApiGateway.Main
import ApiGateway.Proofs.Run.TurnedAway
import ApiGateway.Proofs.RateLimit.Refinement
import ApiGateway.Proofs.RateLimit.Isolation
import ApiGateway.Proofs.RateLimit.Sweeps
import ApiGateway.Proofs.RateLimit.Overlaps
import ApiGateway.Proofs.Traffic.Leases
import ApiGateway.Proofs.Breaker.FailureWindow
import ApiGateway.Proofs.Qos.Protection
import ApiGateway.Proofs.Qos.Settlement
import ApiGateway.Proofs.Breaker.Opening
import ApiGateway.Proofs.Balancer.Generations
import ApiGateway.Proofs.Traffic.BreakerSettings
import ApiGateway.Proofs.Run.Indifference
import ApiGateway.Proofs.Traffic.Indifference
import ApiGateway.Proofs.Cache.LatestWrites
import ApiGateway.Proofs.Succession.Consistency
import ApiGateway.Proofs.Succession.Sharing
import ApiGateway.Proofs.Succession.Sources
import ApiGateway.Proofs.Traffic.Admission
import ApiGateway.Proofs.Traffic.Principals
import ApiGateway.Proofs.Traffic.Destinations
import ApiGateway.Proofs.Traffic.Outcomes
import ApiGateway.Proofs.Config.Acceptance
import ApiGateway.Proofs.Cache.Encoding
import ApiGateway.Proofs.Traffic.SafeReads
import ApiGateway.Proofs.Traffic.Reckonings
import ApiGateway.Proofs.Discovery.Enquiries
import ApiGateway.Proofs.Traffic.RequestIdentifiers
import ApiGateway.Proofs.Traffic.ClaimHeaders
import ApiGateway.Proofs.Exchange.Composition
import ApiGateway.Proofs.Traffic.AllowedMethods
import ApiGateway.Proofs.Balancer.LeastLoad
import ApiGateway.Proofs.Balancer.Turns
import ApiGateway.Proofs.RateLimit.RetryAdvice
import ApiGateway.Proofs.RateLimit.Overflow
import ApiGateway.Proofs.Cache.Capacity
import ApiGateway.Proofs.Exchange.ForwardingChain
import ApiGateway.Proofs.Succession.Shown
import ApiGateway.Proofs.Claims.Grammar
import ApiGateway.Proofs.Route.Identity
import ApiGateway.Proofs.Http.Endpoints
import ApiGateway.Proofs.Cache.Regions
import ApiGateway.Proofs.Route.Grammar
import ApiGateway.Proofs.Traffic.ListedNames
