import Provisioning.Client.Connection
import Provisioning.Client.TransactionIds
import Provisioning.Message.Compose

/-!
# Clients

A client is a connection together with a source of transaction identifiers and the services that it
asks for when it logs in. Each of its calls builds one command with a fresh identifier, and makes of
the response what the call is for: data, or a fault if the server has refused.
-/

namespace Provisioning

structure Client (σ : Type) where
  connection : Connection σ
  ids : TransactionIds
  /-- The services that a login asks for. -/
  menu : ServiceMenu

namespace Client

open Connection (Call)

variable {σ : Type} (p : Peer σ)

/-- The client of a connection, which asks for what the server has offered. -/
def ofConnection (c : Connection σ) (ids : TransactionIds) : Client σ :=
  ⟨c, ids, c.greeting.menu⟩

/-- A call on the connection. -/
def onConnection {α : Type} (call : Call (Connection σ) α) : Call (Client σ) α := fun client =>
  let (r, connection) := call client.connection
  (r, { client with connection })

/-- Takes the next transaction identifier. -/
def nextId : Call (Client σ) String := do
  let c ← get
  set { c with ids := c.ids.advance }
  return c.ids.current

/-- Sends a command. The response is not judged. -/
def sendCommand (c : Command) : Call (Client σ) Response :=
  onConnection (Connection.request p (.ofCommand c))

/-- Sends a command, which the server must not refuse. -/
def execute (c : Command) : Call (Client σ) Response := do
  let r ← sendCommand p c
  if r.isError then throw (.rejected r.code r.message) else return r

/-- Sends a command for what its response says in one place. -/
def ask {α : Type} (c : Command) (what : String) (slot : ResultData → Option α) :
    Call (Client σ) α := do
  let r ← execute p c
  match r.data.bind slot with
  | some x => return x
  | none => throw (.missingData what)

/-! ## Sessions -/

def hello : Call (Client σ) Greeting := onConnection (Connection.hello p)

def logIn (clientId password : String) : Call (Client σ) Response := do
  let id ← nextId
  execute p (.logIn clientId password id (← get).menu)

def close : Call (Client σ) Unit := onConnection (Connection.close p)

/-- Logs out and closes, whatever the server says to it. -/
def logOut : Call (Client σ) Response := fun client =>
  let (r, client) := (do execute p (.logOut (← nextId)) : Call (Client σ) Response) client
  (r, { client with connection := client.connection.closed p })

def poll : Call (Client σ) Response := do execute p (.requestMessage (← nextId))

/-! ## Questions -/

def checkDomains (names : List String) : Call (Client σ) (List CheckItem) := do
  ask p (.checkDomains names (← nextId)) "domain check" (·.domainCheck)

def checkHosts (names : List String) : Call (Client σ) (List CheckItem) := do
  ask p (.checkHosts names (← nextId)) "host check" (·.hostCheck)

def checkContacts (ids : List String) : Call (Client σ) (List CheckItem) := do
  ask p (.checkContacts ids (← nextId)) "contact check" (·.contactCheck)

def infoDomain (name password : String) (hosts : HostsFilter) : Call (Client σ) DomainData := do
  ask p (.infoDomain name password hosts (← nextId)) "domain info" (·.domainInfo)

def infoHost (name : String) : Call (Client σ) HostData := do
  ask p (.infoHost name "" (← nextId)) "host info" (·.hostInfo)

def infoContact (id password : String) : Call (Client σ) ContactData := do
  ask p (.infoContact id password (← nextId)) "contact info" (·.contactInfo)

end Client

end Provisioning
