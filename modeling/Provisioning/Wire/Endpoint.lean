import Provisioning.Text.Numeral
import Provisioning.Wire.TransportFault

/-!
# Endpoints

Where a server listens: a host and a port, written with a colon between them. The last colon counts,
since a host may hold colons of its own.
-/

namespace Provisioning

structure Endpoint where
  host : String
  port : UInt16
  deriving DecidableEq

namespace Endpoint

/-- The text before and the text after the last colon. -/
def splitLast? (s : List Char) : Option (List Char × List Char) :=
  match s.reverse.span (· != ':') with
  | (port, _ :: host) => some (host.reverse, port.reverse)
  | (_, []) => none

def ofText (s : String) : Except TransportFault Endpoint :=
  match splitLast? s.toList with
  | none => .error (.invalidInput "invalid socket address")
  | some (host, port) =>
    match Text.bounded? .u16 port with
    | none => .error (.invalidInput "invalid port value")
    | some n => .ok ⟨String.ofList host, .ofNat n.toNat⟩

/-- The host is told by the numbers of its address: up to four, the last of which fills the bytes that
are left. -/
def isNumeric (e : Endpoint) : Bool :=
  let parts := e.host.splitOn "."
  let numbers := parts.filterMap fun part =>
    if part.toList.all Char.isDigit then part.toNat? else none
  match numbers.reverse with
  | last :: others =>
    numbers.length == parts.length && parts.length ≤ 4 && others.all (· < 256) &&
      last < Nat.pow 256 (5 - parts.length)
  | [] => false

/-- Why a server cannot be reached where there is no network: its name cannot be looked up, or there
is no way to its address. -/
def outOfReach (e : Endpoint) : TransportFault :=
  if e.host.isEmpty then .lookupFailed "Name or service not known"
  else if e.host.contains ':' then .addressUnavailable
  else if e.host == "localhost" || e.isNumeric then .networkUnreachable
  else .lookupFailed "Temporary failure in name resolution"

end Endpoint

end Provisioning
