import Provisioning.Fault
import Provisioning.Message.ResultCode
import Provisioning.Wire.TransportFault

/-!
# Faults of a client

Why a client's call comes to nothing. Two things are told of a fault: whether the session has ended
with it, and whether it is worth connecting again for another attempt.
-/

namespace Provisioning

inductive ClientFault where
  | transport (fault : TransportFault)
  | protocol (fault : Fault)
  | notConnected
  /-- The server went away. -/
  | connectionClosed
  /-- No reply came in time. -/
  | timeout
  /-- A message came that is no answer to what was asked. -/
  | unexpectedMessage (what : String)
  /-- The server answered with the code of an error. -/
  | rejected (code : UInt16) (message : String)
  /-- The response says nothing about what was asked. -/
  | missingData (what : String)
  deriving DecidableEq

namespace ClientFault

def message : ClientFault → String
  | .transport fault => "I/O error: " ++ fault.message
  | .protocol fault => "protocol error: " ++ fault.message
  | .notConnected => "not connected"
  | .connectionClosed => "connection closed"
  | .timeout => "request timeout"
  | .unexpectedMessage what => "unexpected message: " ++ what
  | .rejected code message =>
    "server rejected command: " ++ toString code.toNat ++ " " ++ message
  | .missingData what => "response carries no " ++ what ++ " data"

/-- Whether the session has ended. -/
def isFatal : ClientFault → Bool
  | .rejected code _ => isFatalCode code
  | .connectionClosed => true
  | .notConnected => true
  | _ => false

/-- Whether another attempt on a new connection may succeed. -/
def isRetryable : ClientFault → Bool
  | .transport _ => true
  | .timeout => true
  | .connectionClosed => true
  | _ => false

end ClientFault

end Provisioning
