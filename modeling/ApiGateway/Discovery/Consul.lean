import ApiGateway.Config.Reader
import ApiGateway.Discovery.Service
import ApiGateway.Error
import ApiGateway.Json.Reader
import ApiGateway.Text.Percent

/-!
# The Consul health API

How a query for the healthy instances of a service is written, and how its answer is read. An
instance whose node is reported critical is left out. An instance that was registered without an
address has that of its node.
-/

namespace ApiGateway
namespace Consul

/-- How a registry is asked. -/
structure Client where
  baseUrl : String
  token : Option String
  datacenter : Option String
deriving DecidableEq

/-- The address without slashes at its end, and with a scheme. -/
def baseUrlOf (address : String) : String :=
  let trimmed := String.ofList (address.toList.reverse.dropWhile (· = '/')).reverse
  if address.startsWith "http://" || address.startsWith "https://" then trimmed
  else "http://" ++ trimmed

def Client.ofConfig (c : Config.ServiceDiscovery) : Client :=
  ⟨baseUrlOf c.address, c.token, c.datacenter⟩

/-- A query: the address that is asked and the token that is shown. -/
structure Query where
  url : String
  token : Option String

/-- The query for the instances of a service that pass all checks. -/
def Client.query (c : Client) (service : String) : Query :=
  let datacenter := match c.datacenter with
    | some d => "&dc=" ++ d
    | none => ""
  ⟨c.baseUrl ++ "/v1/health/service/" ++ service ++ "?passing=true" ++ datacenter, c.token⟩

/-- How a query ends: a failure on the way, or a status and a body. -/
abbrev Outcome := Except String (Nat × Bytes)

/-- How the world answers queries. -/
abbrev Exchange := Query → Outcome

/-- A world in which no query gets through. -/
def unreachable : Exchange :=
  fun q => .error s!"error sending request for url ({q.url})"

/-- A node that runs services. -/
structure Node where
  name : String
  address : String

/-- A check of a node or a service. -/
structure Check where
  id : String
  status : String

/-- An instance of a service as it is registered. -/
structure Instance where
  id : String
  address : String
  port : UInt16
  metadata : Dictionary

structure Entry where
  node : Node
  service : Instance
  checks : List Check

open Data

def Node.ofData? (d : Data) : Option Node := do
  let r ← d.record? ["Node", "Address"]
  return ⟨← r.required "Node" text?, ← r.orDefault "Address" "" text?⟩

def Check.ofData? (d : Data) : Option Check := do
  let r ← d.record? ["CheckID", "Status"]
  return ⟨← r.required "CheckID" text?, ← r.required "Status" text?⟩

def Instance.ofData? (d : Data) : Option Instance := do
  let r ← d.record? ["ID", "Address", "Port", "Meta"]
  return ⟨← r.required "ID" text?, ← r.required "Address" text?, ← r.required "Port" uint16?,
    ← r.collection "Meta" .empty Config.dictionary?⟩

def Entry.ofData? (d : Data) : Option Entry := do
  let r ← d.record? ["Node", "Service", "Checks"]
  return ⟨← r.required "Node" Node.ofData?, ← r.required "Service" Instance.ofData?,
    ← r.orDefault "Checks" [] (list? Check.ofData?)⟩

/-- Whether the node of an entry is reported critical. -/
def Entry.isCritical (e : Entry) : Bool :=
  e.checks.any fun c => c.id = "serfHealth" && c.status = "critical"

/-- The backend that an entry describes. -/
def Entry.toService (e : Entry) : Service :=
  let host :=
    if ! e.service.address.isEmpty then e.service.address
    else if ! e.node.address.isEmpty then e.node.address
    else "127.0.0.1"
  ⟨e.service.id, host, e.service.port, e.service.metadata⟩

def entries? (body : Bytes) : Option (List Entry) := do
  let d ← Json.read? (← body.text?)
  list? Entry.ofData? d

/-- The healthy instances of a service that the outcome of a query tells. -/
def services (service : String) : Outcome → Except GatewayError (List Service)
  | .error failure => .error (.http failure)
  | .ok (status, body) =>
      if ! Status.isSuccess status then
        .error (.discovery
          s!"consul returned status={Status.print status} for service={service}")
      else
        match entries? body with
        | none => .error (.http "error decoding response body")
        | some entries => .ok ((entries.filter (! ·.isCritical)).map Entry.toService)

end Consul
end ApiGateway
