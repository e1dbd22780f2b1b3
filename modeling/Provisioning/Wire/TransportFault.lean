/-!
# Faults of the transport

Why bytes do not get to the other side, a file is not read, or an address makes no sense. A fault of
the system comes with the number of the system's error.
-/

namespace Provisioning

inductive TransportFault where
  /-- The system refuses, with the number, the kind and the text of its error. -/
  | system (number : Nat) (kind text : String)
  /-- What is asked for makes no sense. -/
  | invalidInput (text : String)
  /-- The address of a host cannot be found out. -/
  | lookupFailed (reason : String)
  /-- Any other cause, in words. -/
  | other (text : String)
  deriving DecidableEq

namespace TransportFault

/-- The other side is gone. -/
def brokenPipe : TransportFault := .system 32 "BrokenPipe" "Broken pipe"

def noSuchFile : TransportFault := .system 2 "NotFound" "No such file or directory"

def networkUnreachable : TransportFault :=
  .system 101 "NetworkUnreachable" "Network is unreachable"

def addressUnavailable : TransportFault :=
  .system 99 "AddrNotAvailable" "Cannot assign requested address"

/-- The text for a reader of messages. -/
def message : TransportFault → String
  | .system number _ text => text ++ " (os error " ++ toString number ++ ")"
  | .invalidInput text => text
  | .lookupFailed reason => "failed to lookup address information: " ++ reason
  | .other text => text

end TransportFault

end Provisioning
