import Provisioning.Message.ResultCode
import Provisioning.Server.Config
import Provisioning.Wire.TransportFault

/-!
# Faults of a server

Why a server does not serve a client to the end. A fault of the transport is nobody's decision; the
others are decisions of one of the two sides.
-/

namespace Provisioning

inductive ServerFault where
  | transport (fault : TransportFault)
  | protocol (fault : Fault)
  /-- The client took too long to log in. -/
  | clientTimeout
  /-- The client went away inside a frame. -/
  | connectionClosed
  /-- Nobody takes the messages that are read. -/
  | queueClosed
  | config (fault : ConfigFault)
  deriving DecidableEq

namespace ServerFault

def message : ServerFault → String
  | .transport fault => "I/O error: " ++ fault.message
  | .protocol fault => "protocol error: " ++ fault.message
  | .clientTimeout => "client timeout"
  | .connectionClosed => "connection closed"
  | .queueClosed => "message queue closed"
  | .config fault => "configuration error: " ++ fault.message

/-- The code that tells a client of the fault. -/
def resultCode : ServerFault → ResultCode
  | .protocol _ => .commandSyntaxError
  | .clientTimeout => .commandFailedClosing
  | _ => .commandFailed

/-- Whether the fault is the transport's and not a decision of one side. -/
def isTransport : ServerFault → Bool
  | .transport _ => true
  | .connectionClosed => true
  | .queueClosed => true
  | _ => false

end ServerFault

end Provisioning
