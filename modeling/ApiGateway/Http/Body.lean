import ApiGateway.Error

/-!
# Reading bodies

A body arrives in pieces and may break off. It is taken up to a limit: the first piece that goes
beyond it ends the reading.
-/

namespace ApiGateway

/-- A body on its way in: its pieces, and whether it breaks off after them. -/
structure ArrivingBody where
  pieces : List Bytes
  breaksOff : Bool := false

namespace ArrivingBody

/-- The refusal of a body that breaks off. -/
def brokenOff : GatewayError := .badRequest "error reading a body from connection"

/-- Reads pieces, given the bytes that were read before. -/
def readFrom (limit : Nat) (breaksOff : Bool) : Bytes → List Bytes → Except GatewayError Bytes
  | sofar, [] => if breaksOff then .error brokenOff else .ok sofar
  | sofar, p :: ps =>
      if limit < (sofar ++ p).length then .error (.payloadTooLarge limit)
      else readFrom limit breaksOff (sofar ++ p) ps

/-- Reads a body of at most `limit` bytes. -/
def read (b : ArrivingBody) (limit : Nat) : Except GatewayError Bytes :=
  readFrom limit b.breaksOff [] b.pieces

end ArrivingBody
end ApiGateway
