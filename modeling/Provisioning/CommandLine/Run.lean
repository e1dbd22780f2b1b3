import Provisioning.Client.Client
import Provisioning.CommandLine.Arguments
import Provisioning.CommandLine.Inspection
import Provisioning.Json.Envelope
import Provisioning.Server.Credentials
import Provisioning.Wire.Endpoint

/-!
# Running a command line

Some commands need nothing but what they are given. The others connect, log in where that is needed,
send one command, log out, and show the answer. All that a run needs of the world is in its
surroundings, so a run is a function.
-/

namespace Provisioning.CommandLine

/-- What a run needs of the world. -/
structure Surroundings (σ : Type) where
  /-- The environment. -/
  lookup : String → Option String
  fileText : String → Except TransportFault String
  /-- The servers that can be reached. -/
  peer : Peer σ
  dial : Endpoint → Except TransportFault σ
  /-- The identifiers of the run's transactions. -/
  ids : TransactionIds

structure Outcome where
  status : UInt8
  output : String := ""
  complaint : String := ""
  deriving DecidableEq

namespace Outcome

def success (text : String) : Outcome := { status := 0, output := text ++ "\n" }

def failure (text : String) : Outcome := { status := 1, complaint := text ++ "\n" }

def misuse (text : String) : Outcome := { status := 2, complaint := text ++ "\n" }

end Outcome

/-- The version of the command. -/
def version : String := "epp 0.1.0"

def usage : String :=
  "Usage: epp [OPTIONS] <COMMAND>\n\nCommands:\n" ++
    String.join (CommandForm.all.map fun f => "  " ++ f.name ++ "\n") ++ "  help\n\nOptions:\n" ++
    "  -s, --server <SERVER>      [env: EPP_SERVER] [default: " ++ defaultServer ++ "]\n" ++
    "  -l, --login <LOGIN>        [env: EPP_LOGIN]\n" ++
    "  -p, --password <PASSWORD>  [env: EPP_PASSWORD]\n" ++
    "      --json\n  -h, --help\n  -V, --version"

/-! ## What is shown -/

/-- What the client shows of a message. -/
def display {α : Type} [ToJson α] (json : Bool) (value : α) (e : Envelope) : String :=
  if json then (ToJson.toJson value).pretty 0 else e.toText

def showResponse (json : Bool) (r : Response) : String :=
  toString r.code.toNat ++ " " ++ r.message ++ "\n" ++ display json r (.ofResponse r)

def showGreeting (json : Bool) (g : Greeting) : String :=
  "Greeting from " ++ g.serverId ++ "\n" ++ display json (Envelope.ofGreeting g) (.ofGreeting g)

/-- What a document is, and in JSON also all that it says. -/
def showTag (json : Bool) (e : Envelope) : String :=
  if json then
    (Json.record (Json.field "message_type" e.tag.text ++ Json.field "envelope" e)).sorted.pretty 0
  else e.tag.text

/-! ## Without a server -/

def classify (json : Bool) (file : Except TransportFault String) : Outcome :=
  match file with
  | .error fault => .failure ("Error: " ++ fault.message)
  | .ok document =>
    match Envelope.ofText document with
    | .error fault => .failure ("Error: " ++ fault.message)
    | .ok e => .success (showTag json e.typed)

/-! ## With a server -/

section

variable {σ : Type} (p : Peer σ)

/-- The command of a request, with a fresh identifier. -/
def Request.command? : Request → String → Option Command
  | .checkDomains names, id => some (.checkDomains names id)
  | .checkHosts names, id => some (.checkHosts names id)
  | .checkContacts ids, id => some (.checkContacts ids id)
  | .infoDomain name password hosts, id => some (.infoDomain name password hosts id)
  | .infoHost name, id => some (.infoHost name "" id)
  | .infoContact contact password, id => some (.infoContact contact password id)
  | .poll, id => some (.requestMessage id)
  | _, _ => none

/-- What is shown of the answer, and whether the server has refused. -/
def perform (json : Bool) (request : Request) : Connection.Call (Client σ) (Bool × String) := do
  match request with
  | .hello => return (false, showGreeting json (← Client.hello p))
  | request =>
    match request.command? (← Client.nextId) with
    | some command =>
      let r ← Client.sendCommand p command
      return (r.isError, showResponse json r)
    | none => return (true, "command needs a server connection")

/-- Logs out if the client has logged in and the session goes on, and closes. -/
def leave (loggedIn : Bool) (client : Client σ) : Client σ :=
  if loggedIn && client.connection.connected then (Client.logOut p client).2
  else (Client.close p client).2

/-- Performs a request and leaves. -/
def finish (json : Bool) (request : Request) (loggedIn : Bool) (client : Client σ) :
    Outcome × Client σ :=
  let (answer, client) := perform p json request client
  let outcome : Outcome := match answer with
    | .ok (false, text) => .success text
    | .ok (true, text) => .failure ("Error: " ++ text)
    | .error fault => .failure ("Error: " ++ fault.message)
  (outcome, leave p loggedIn client)

/-- Logs in if there is a login, performs a request and leaves. -/
def converse (json : Bool) (request : Request) (credentials : Option (String × String))
    (client : Client σ) : Outcome × Client σ :=
  match credentials with
  | none => finish p json request false client
  | some (login, password) =>
    match Client.logIn p login password client with
    | (.ok _, client) => finish p json request true client
    | (.error fault, client) => (.failure ("Login failed: " ++ fault.message), client)

end

/-- Connects and waits for the greeting. -/
def connect {σ : Type} (w : Surroundings σ) (address : String) :
    Except ClientFault (Client σ) :=
  match (Endpoint.ofText address).bind w.dial with
  | .error fault => .error (.transport fault)
  | .ok peer =>
    match Connection.ofStream w.peer {} peer with
    | .error (fault, _) => .error fault
    | .ok connection => .ok (.ofConnection connection w.ids)

/-- Connects, converses and leaves. -/
def remote {σ : Type} (w : Surroundings σ) (a : Arguments)
    (credentials : Option (String × String)) : Outcome :=
  match connect w a.server with
  | .error fault =>
    .failure ("Connection failed: " ++ fault.message ++ "\nError: " ++ fault.shown)
  | .ok client => (converse w.peer a.json a.request credentials client).1

/-- The file that is read. -/
def Arguments.file? (a : Arguments) : Option String :=
  match a.request with
  | .classify path => some path
  | _ => none

/-- Does what the arguments ask for. -/
def Arguments.run {σ : Type} (w : Surroundings σ) (a : Arguments) : Outcome :=
  match a.request with
  | .classify path => classify a.json (w.fileText path)
  | .hashPassword password => .success (Provisioning.hashPassword password)
  | request =>
    if request.needsLogin then
      match a.login, a.password with
      | some login, some password => remote w a (some (login, password))
      | _, _ =>
        .misuse "Error: --login and --password (or EPP_LOGIN and EPP_PASSWORD) are required"
    else remote w a none

/-- Runs the words of a command line. -/
def run {σ : Type} (w : Surroundings σ) (words : List String) : Outcome :=
  match Arguments.read w.lookup words with
  | .ok a => a.run w
  | .error .helpWanted => .success usage
  | .error .versionWanted => .success version
  | .error .refused => .misuse usage

end Provisioning.CommandLine
