import Provisioning.Server.Credentials

/-!
# Sessions

A session begins when a client connects. The server greets, the client logs in, and then gives
commands until it logs out or the server closes the session. Once an account is bound to a session
it stays bound. What a session counts in 64 bits begins again at zero after the last number.
-/

namespace Provisioning

/-- How far a session is. -/
inductive SessionState where
  /-- The greeting has not been sent. -/
  | prepareGreeting
  /-- The client has to log in. -/
  | waitingForClient
  /-- The client is logged in. -/
  | waitingForCommand
  /-- Nothing follows. -/
  | closeConnection
  deriving DecidableEq

def SessionState.label : SessionState → String
  | .prepareGreeting => "PrepareGreeting"
  | .waitingForClient => "WaitingForClient"
  | .waitingForCommand => "WaitingForCommand"
  | .closeConnection => "CloseConnection"

def SessionState.ofLabel? : String → Option SessionState
  | "PrepareGreeting" => some .prepareGreeting
  | "WaitingForClient" => some .waitingForClient
  | "WaitingForCommand" => some .waitingForCommand
  | "CloseConnection" => some .closeConnection
  | _ => none

structure Session where
  /-- The number of the connection, a part of the server's transaction identifiers. -/
  connection : UInt64
  state : SessionState := .prepareGreeting
  /-- The number of the next transaction. -/
  sequence : UInt64 := 1
  /-- The failed logins that did not close the session. -/
  failedLogins : Nat := 0
  /-- All failed logins, the one that closed the session too. -/
  refusals : UInt64 := 0
  /-- The messages that have come. -/
  messages : UInt64 := 0
  account : Option Account := none
  deriving DecidableEq

namespace Session

def isClosing (s : Session) : Bool := s.state == .closeConnection

def isAuthenticated (s : Session) : Bool := s.account.isSome

def registrarId? (s : Session) : Option String := s.account.map (·.registrarId)

/-- Whether the objects of a registrar are the session's own. -/
def sponsors (s : Session) (sponsor : String) : Bool := s.registrarId? == some sponsor

/-- The identifier of the next transaction. -/
def transactionId (s : Session) : String :=
  "SRV-" ++ toString s.connection.toNat ++ "-" ++ toString s.sequence.toNat

/-- The session after a transaction. -/
def advance (s : Session) : Session := { s with sequence := s.sequence + 1 }

/-- The session after a message has come. -/
def received (s : Session) : Session := { s with messages := s.messages + 1 }

def moveTo (s : Session) (state : SessionState) : Session := { s with state }

/-- Binds an account. -/
def logIn (s : Session) (a : Account) : Session :=
  { s with account := some a, state := .waitingForCommand }

end Session

end Provisioning
