import Provisioning.CommandLine.Words
import Provisioning.Message.Info
import Provisioning.Wire.Frame

/-!
# What a command line asks for

The options about the server and the login stand before the name of a command and can also be given
in the environment, which counts less. Each command has operands and maybe options of its own.
-/

namespace Provisioning.CommandLine

/-- What is to be done. -/
inductive Request where
  | hello
  | checkDomains (names : List String)
  | checkHosts (names : List String)
  | checkContacts (ids : List String)
  | infoDomain (name password : String) (hosts : HostsFilter)
  | infoHost (name : String)
  | infoContact (id password : String)
  | poll
  /-- Tells of a file what message it holds. -/
  | classify (path : String)
  | hashPassword (password : String)
  deriving DecidableEq

/-- Whether the client has to log in for it. -/
def Request.needsLogin : Request → Bool
  | .hello => false
  | .classify _ => false
  | .hashPassword _ => false
  | _ => true

structure Arguments where
  server : String
  login : Option String
  password : Option String
  /-- Messages are shown in JSON. -/
  json : Bool
  request : Request
  deriving DecidableEq

/-! ## The commands -/

def helpOption : OptionForm := { name := "help", letter := some 'h', kind := .help }

/-- A command: its name, its words, and the request that they make. -/
structure CommandForm where
  name : String
  options : List OptionForm := []
  most : Option Nat := none
  permits : String → Bool := fun _ => true
  request? : Told → Option Request

namespace CommandForm

def grammar (f : CommandForm) : Grammar :=
  { options := helpOption :: f.options, most := f.most, permits := f.permits }

/-- A command without operands. -/
def bare (name : String) (request : Request) : CommandForm :=
  { name, most := some 0, request? := fun _ => some request }

/-- A command with one operand. -/
def single (name : String) (request : String → Told → Option Request)
    (options : List OptionForm) (permits : String → Bool) : CommandForm :=
  { name, options, permits, most := some 1
    request? := fun t => t.operands.head?.bind fun s => request s t }

/-- A command with at least one operand. -/
def several (name : String) (request : List String → Request) : CommandForm :=
  { name, request? := fun t => if t.operands.isEmpty then none else some (request t.operands) }

def anyText : String → Bool := fun _ => true

def authOption : OptionForm := { name := "auth" }

def hostsOption : OptionForm :=
  { name := "hosts", permits := fun s => (HostsFilter.ofLabel? s).isSome }

def auth (t : Told) : String := (t.value? "auth").getD ""

def hosts (t : Told) : HostsFilter := ((t.value? "hosts").bind HostsFilter.ofLabel?).getD .all

def all : List CommandForm := [
  bare "hello" .hello,
  several "check-domain" .checkDomains,
  several "check-host" .checkHosts,
  several "check-contact" .checkContacts,
  single "info-domain" (fun s t => some (.infoDomain s (auth t) (hosts t)))
    [authOption, hostsOption] anyText,
  single "info-host" (fun s _ => some (.infoHost s)) [] anyText,
  single "info-contact" (fun s t => some (.infoContact s (auth t))) [authOption] anyText,
  bare "poll" .poll,
  single "classify" (fun s _ => some (.classify s)) [] fun s => s != "",
  single "hash-password" (fun s _ => some (.hashPassword s)) [] anyText]

def ofName? (name : String) : Option CommandForm := all.find? (·.name == name)

/-- The request of the words after the name. -/
def read (f : CommandForm) (words : List String) : Except Stop Request :=
  match f.grammar.read {} words with
  | .error stop => .error stop
  | .ok (told, _) =>
    match f.request? told with
    | some request => .ok request
    | none => .error .refused

end CommandForm

/-! ## The whole line -/

def defaultServer : String := "127.0.0.1:" ++ toString Wire.defaultPort

def topGrammar : Grammar :=
  { options := [
      { name := "server", letter := some 's' }, { name := "login", letter := some 'l' },
      { name := "password", letter := some 'p' }, { name := "json", kind := .flag }, helpOption,
      { name := "version", letter := some 'V', kind := .version }]
    endsAtOperand := true }

/-- Help is there for the whole, for each command and for itself. -/
def readHelp : List String → Stop
  | [] => .helpWanted
  | [name] =>
    if name == "help" || (CommandForm.ofName? name).isSome then .helpWanted else .refused
  | _ => .refused

def readRequest : List String → Except Stop Request
  | [] => .error .refused
  | name :: words =>
    if name == "help" then .error (readHelp words)
    else
      match CommandForm.ofName? name with
      | some form => form.read words
      | none => .error .refused

/-- What the words of a command line ask for, in an environment. -/
def Arguments.read (lookup : String → Option String) (words : List String) :
    Except Stop Arguments := do
  let (told, rest) ← topGrammar.read {} words
  let request ← readRequest rest
  let setting (name key : String) : Option String := (told.value? name).or (lookup key)
  return {
    server := (setting "server" "EPP_SERVER").getD defaultServer
    login := setting "login" "EPP_LOGIN"
    password := setting "password" "EPP_PASSWORD"
    json := told.has "json"
    request }

end Provisioning.CommandLine
