import Provisioning.Server.Service
import Provisioning.Wire.Frame
import Provisioning.Yaml.Printer
import Provisioning.Yaml.Value

/-!
# Settings of a server

Settings come from a file and from the environment. What neither says has a default; what the
environment says counts more, but a value there that cannot be read is passed over. Settings are
checked as a whole before they are used.
-/

namespace Provisioning

/-- How the server listens and how patient it is. -/
structure NetworkSettings where
  host : String := "127.0.0.1"
  port : UInt16 := UInt16.ofNat Wire.defaultPort
  /-- How long a client may take to log in, in seconds. -/
  idleTimeout : UInt64 := 300
  /-- The failed logins after which the next one closes the session. -/
  maxFailedLogins : UInt32 := 2
  /-- How many messages of a client wait at most. -/
  queueCapacity : UInt64 := 100
  maxFrameSize : UInt64 := UInt64.ofNat Wire.maxFrameSize
  serverId : String := defaultServerId
  deriving DecidableEq

/-- How long a client may take to log in, in milliseconds, as a word of 64 bits. -/
def NetworkSettings.idleMilliseconds (n : NetworkSettings) : UInt64 := n.idleTimeout * 1000

/-- A login, with its password or the digest of it. -/
structure AccountSettings where
  loginId : String
  password : Option String := none
  passwordHash : Option String := none
  registrarId : String
  deriving DecidableEq

structure Config where
  network : NetworkSettings := {}
  accounts : List AccountSettings := []
  /-- The file that holds what is registered at first. -/
  seedFile : Option String := none
  deriving DecidableEq

/-- Why settings are refused. -/
inductive ConfigFault where
  /-- The file cannot be read. -/
  | unreadable
  /-- The file does not hold settings. -/
  | unparsable
  | emptyQueue
  | emptyFrame
  | duplicateLogin (loginId : String)
  | notDigest (loginId : String)
  /-- An account has no password, or has one and a digest. -/
  | notOnePassword (loginId : String)
  /-- Whoever uses the settings refuses them, in words of its own. -/
  | refused (reason : String)
  deriving DecidableEq

/-- What is wrong with the settings themselves. -/
def ConfigFault.detail : ConfigFault → String
  | .unreadable => "the file cannot be read"
  | .unparsable => "the file does not hold settings"
  | .emptyQueue => "network.queue_capacity must be greater than zero"
  | .emptyFrame => "network.max_frame_size must be greater than zero"
  | .duplicateLogin id => "duplicate login id '" ++ id ++ "'"
  | .notDigest id => "account '" ++ id ++ "': password_hash is not a SHA-256 hex digest"
  | .notOnePassword id =>
    "account '" ++ id ++ "': set exactly one of password and password_hash"
  | .refused reason => reason

/-- The text of a fault. -/
def ConfigFault.message (f : ConfigFault) : String :=
  "configuration validation failed: " ++ f.detail

/-! ## Checking -/

/-- A digest in hexadecimal, in either case. -/
def isDigest (s : String) : Bool := s.length == 64 && s.toList.all Text.Hex.isDigit

/-- The account of its settings. -/
def AccountSettings.account (a : AccountSettings) : Except ConfigFault Account :=
  match a.password, a.passwordHash with
  | some password, none => .ok (.ofPassword a.loginId password a.registrarId)
  | none, some hash =>
    if isDigest hash then .ok (.ofHash a.loginId hash a.registrarId)
    else .error (.notDigest a.loginId)
  | _, _ => .error (.notOnePassword a.loginId)

namespace Config

/-- The accounts of the settings; the first faulty one counts. -/
def accountList (c : Config) : Except ConfigFault (List Account) := c.accounts.mapM (·.account)

/-- Checks accounts in order, each against the logins before it and then on its own. -/
def checkAccounts (seen : List String) : List AccountSettings → Except ConfigFault Unit
  | [] => .ok ()
  | a :: as =>
    if seen.contains a.loginId then .error (.duplicateLogin a.loginId)
    else
      match a.account with
      | .error fault => .error fault
      | .ok _ => checkAccounts (a.loginId :: seen) as

/-- Limits are positive, logins are unique, and every account has one password. -/
def validate (c : Config) : Except ConfigFault Unit :=
  if c.network.queueCapacity = 0 then .error .emptyQueue
  else if c.network.maxFrameSize = 0 then .error .emptyFrame
  else checkAccounts [] c.accounts

/-! ## The environment -/

/-- A number in the environment, in place of another one if it can be read. -/
def overrideNumber (b : Text.Bounds) (previous : Nat) (value : Option String) : Nat :=
  match value.bind fun s => Text.bounded? b s.toList with
  | some n => n.toNat
  | none => previous

/-- A text in the environment, in place of another one unless it is empty. -/
def overrideText (previous : String) (value : Option String) : String :=
  match value with
  | some s => if s = "" then previous else s
  | none => previous

/-- The settings with what the environment says. -/
def override (c : Config) (lookup : String → Option String) : Config :=
  let n := c.network
  { c with
    network := { n with
      host := overrideText n.host (lookup "EPPD_HOST")
      port := .ofNat (overrideNumber .u16 n.port.toNat (lookup "EPPD_PORT"))
      idleTimeout := .ofNat (overrideNumber .u64 n.idleTimeout.toNat (lookup "EPPD_IDLE_TIMEOUT"))
      maxFailedLogins :=
        .ofNat (overrideNumber .u32 n.maxFailedLogins.toNat (lookup "EPPD_MAX_FAILED_LOGINS"))
      queueCapacity :=
        .ofNat (overrideNumber .u64 n.queueCapacity.toNat (lookup "EPPD_QUEUE_CAPACITY"))
      serverId := overrideText n.serverId (lookup "EPPD_SERVER_ID") }
    seedFile := (lookup "EPPD_REGISTRY_SEED").or c.seedFile }

/-! ## The file -/

section
open Yaml

/-- A number of a field. -/
def readNat (b : Text.Bounds) (fields : List (String × Value)) (key : String) (default : Nat) :
    Option Nat :=
  Value.defaulted? (Value.number? b) default fields key

def readNetwork (v : Value) : Option NetworkSettings := do
  let fields ← v.fields?
  let default : NetworkSettings := {}
  let host ← Value.defaulted? Value.text? default.host fields "host"
  let port ← readNat .u16 fields "port" default.port.toNat
  let idle ← readNat .u64 fields "idle_timeout_secs" default.idleTimeout.toNat
  let logins ← readNat .u32 fields "max_failed_login_attempts" default.maxFailedLogins.toNat
  let queue ← readNat .u64 fields "queue_capacity" default.queueCapacity.toNat
  let frame ← readNat .u64 fields "max_frame_size" default.maxFrameSize.toNat
  let serverId ← Value.defaulted? Value.text? default.serverId fields "server_id"
  return ⟨host, .ofNat port, .ofNat idle, .ofNat logins, .ofNat queue, .ofNat frame, serverId⟩

def readAccount (v : Value) : Option AccountSettings := do
  let fields ← v.fields?
  let loginId ← Value.required? Value.text? fields "login_id"
  let password ← Value.defaulted? (Value.optional? Value.text?) none fields "password"
  let hash ← Value.defaulted? (Value.optional? Value.text?) none fields "password_hash"
  let registrarId ← Value.required? Value.text? fields "registrar_id"
  return ⟨loginId, password, hash, registrarId⟩

def readSeedFile (v : Value) : Option (Option String) := do
  Value.defaulted? (Value.optional? Value.text?) none (← v.fields?) "seed_file"

def ofValue? (v : Value) : Option Config := do
  let fields ← v.fields?
  let network ← Value.defaulted? readNetwork {} fields "network"
  let accounts ← Value.defaulted? (fun v => do (← v.items?).mapM readAccount) [] fields "accounts"
  let seedFile ← Value.defaulted? readSeedFile none fields "registry"
  return ⟨network, accounts, seedFile⟩

end

/-- The settings of a file's text. -/
def ofText (s : String) : Except ConfigFault Config :=
  match (Yaml.Value.ofText? s).bind ofValue? with
  | some c => .ok c
  | none => .error .unparsable

/-- The settings of the file that the environment names, if any, and of the environment. -/
def load (lookup : String → Option String) (fileText : String → Except ConfigFault String) :
    Except ConfigFault Config := do
  let file ← match lookup "EPPD_CONFIG" with
    | none => pure {}
    | some path => (fileText path).bind ofText
  let config := file.override lookup
  config.validate
  return config

/-- An account in a file. -/
def accountText (a : AccountSettings) : String :=
  let option (key : String) (value : Option String) : String :=
    match value with
    | some s => Yaml.line 4 key (Yaml.quote s)
    | none => ""
  Yaml.line 2 "- login_id" (Yaml.quote a.loginId) ++ option "password" a.password ++
    option "password_hash" a.passwordHash ++ Yaml.line 4 "registrar_id" (Yaml.quote a.registrarId)

/-- The text of a file with the settings. -/
def toText (c : Config) : String :=
  let n := c.network
  "network:\n" ++ Yaml.line 2 "host" (Yaml.quote n.host) ++
    Yaml.line 2 "port" (toString n.port.toNat) ++
    Yaml.line 2 "idle_timeout_secs" (toString n.idleTimeout.toNat) ++
    Yaml.line 2 "max_failed_login_attempts" (toString n.maxFailedLogins.toNat) ++
    Yaml.line 2 "queue_capacity" (toString n.queueCapacity.toNat) ++
    Yaml.line 2 "max_frame_size" (toString n.maxFrameSize.toNat) ++
    Yaml.line 2 "server_id" (Yaml.quote n.serverId) ++
    (if c.accounts.isEmpty then Yaml.line 0 "accounts" "[]"
      else "accounts:\n" ++ String.join (c.accounts.map accountText)) ++
    "registry:\n" ++
    Yaml.line 2 "seed_file" (match c.seedFile with
      | some path => Yaml.quote path
      | none => "null")

end Config

end Provisioning
