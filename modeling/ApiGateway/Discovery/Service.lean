import ApiGateway.Config.Basic

/-!
# Services

A backend that can be called: its identifier, where it listens, and what its registration says
about it.
-/

namespace ApiGateway

/-- A backend. -/
structure Service where
  id : String
  host : String
  port : UInt16
  metadata : Dictionary := .empty
deriving DecidableEq

namespace Service

/-- Host and port, as a call addresses the backend. -/
def endpoint (s : Service) : String :=
  s.host ++ ":" ++ toString s.port.toNat

/-- A backend from a list in the configuration, identified by its endpoint. -/
def ofHostAndPort (h : Config.HostAndPort) : Service :=
  ⟨h.host ++ ":" ++ toString h.port.toNat, h.host, h.port, .empty⟩

end Service
end ApiGateway
