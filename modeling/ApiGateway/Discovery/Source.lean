import ApiGateway.Discovery.Consul
import ApiGateway.Duration.Basic

/-!
# Sources of services

Where a load balancer finds the backends of its route: in the configuration, or in the registry
under the name of a service. A list from the registry serves for a while before the registry is
asked again, and it goes on serving when the registry fails.
-/

namespace ApiGateway

/-- A list of services and when it was fetched. -/
structure FetchedServices where
  fetchedAt : Instant
  services : List Service
deriving DecidableEq

/-- The instances of one service in the registry, with the latest list. -/
structure RegisteredService where
  client : Consul.Client
  name : String
  refresh : Duration
  latest : Option FetchedServices := none
deriving DecidableEq

namespace RegisteredService

/-- The latest list, while it is fresh. -/
def fresh? (s : RegisteredService) (now : Instant) : Option (List Service) :=
  match s.latest with
  | some l => if now - l.fetchedAt < s.refresh then some l.services else none
  | none => none

/-- A read that asks the registry. It keeps the list that it found, for the case of a failure. -/
structure PendingRead where
  previous : Option FetchedServices
deriving DecidableEq

/-- Begins a read: a fresh list ends it at once, otherwise it asks the registry. -/
def beginRead (s : RegisteredService) (now : Instant) : Except PendingRead (List Service) :=
  match s.fresh? now with
  | some services => .ok services
  | none => .error ⟨s.latest⟩

/-- Keeps a list that was just fetched. -/
def store (s : RegisteredService) (now : Instant) (services : List Service) : RegisteredService :=
  { s with latest := some ⟨now, services⟩ }

/-- What a failed query leaves to a read: the list that it found, or a refusal. -/
def PendingRead.afterFailure (p : PendingRead) (name : String) (cause : GatewayError) :
    Except GatewayError (List Service) :=
  match p.previous with
  | some l => .ok l.services
  | none => .error (.discovery s!"service={name}: {cause.message}")

/-- Ends a read that asked the registry. -/
def endRead (s : RegisteredService) (p : PendingRead) (now : Instant) (outcome : Consul.Outcome) :
    RegisteredService × Except GatewayError (List Service) :=
  match Consul.services s.name outcome with
  | .ok services => (s.store now services, .ok services)
  | .error e => (s, p.afterFailure s.name e)

end RegisteredService

/-- Where the backends of a route are found. -/
inductive ServiceSource
  | listed (services : List Service)
  | registered (service : RegisteredService)
deriving DecidableEq

namespace ServiceSource

/-- Begins a read: it has the backends at once, or it has to ask the registry. -/
def beginRead (s : ServiceSource) (now : Instant) :
    Except RegisteredService.PendingRead (List Service) :=
  match s with
  | listed services => .ok services
  | registered r => r.beginRead now

/-- Ends a read that asked the registry. -/
def endRead (s : ServiceSource) (p : RegisteredService.PendingRead) (exchange : Consul.Exchange)
    (now : Instant) : ServiceSource × Except GatewayError (List Service) :=
  match s with
  | listed services => (s, .ok services)
  | registered r =>
      let (r, result) := r.endRead p now (exchange (r.client.query r.name))
      (registered r, result)

/-- The current backends, asking the registry if the latest list of it is not fresh. -/
def read (s : ServiceSource) (exchange : Consul.Exchange) (now : Instant) :
    ServiceSource × Except GatewayError (List Service) :=
  match s.beginRead now with
  | .ok services => (s, .ok services)
  | .error p => s.endRead p exchange now

/-- The query that a read sends when it asks the registry. -/
def query? (s : ServiceSource) : Option Consul.Query :=
  match s with
  | listed _ => none
  | registered r => some (r.client.query r.name)

/-- The service and the number of backends of a list that was fetched at an instant. -/
def fetchedAt? (s : ServiceSource) (now : Instant) : Option (String × Nat) :=
  match s with
  | listed _ => none
  | registered r =>
      match r.latest with
      | some l => if l.fetchedAt = now then some (r.name, l.services.length) else none
      | none => none

end ServiceSource

/-- The registry that routes with a service name are looked up in, if there is one. -/
structure ServiceDirectory where
  registry : Option (Consul.Client × Duration)
deriving DecidableEq

namespace ServiceDirectory

def ofConfig (c : Option Config.ServiceDiscovery) : ServiceDirectory :=
  ⟨c.map fun s => (Consul.Client.ofConfig s, Duration.ofSecs s.pollIntervalSecs.toNat)⟩

def source (d : ServiceDirectory) (routeKey : String) (serviceName : Option String)
    (hosts : List Service) : Except GatewayError ServiceSource :=
  match serviceName with
  | none => .ok (.listed hosts)
  | some name =>
      match d.registry with
      | some (client, refresh) => .ok (.registered { client, name, refresh })
      | none =>
          .error (.config
            (s!"route '{routeKey}' uses service_name '{name}' "
              ++ "but no service discovery is configured"))

end ServiceDirectory
end ApiGateway
