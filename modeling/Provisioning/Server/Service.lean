import Provisioning.Message.Envelope
import Provisioning.Server.Registry
import Provisioning.Server.Session

/-!
# Answering messages

The service answers every message with exactly one reply, which depends on the session and moves it
on. Before the login nothing but a login is understood; after it checks and infos are answered from
the registry, and an update is allowed to the sponsor of its object. The registry is only read.
-/

namespace Provisioning

/-- What has come from the client: a message, or a frame whose document is faulty. -/
inductive Inbound where
  | message (e : Envelope)
  | malformed (fault : Fault)
  deriving DecidableEq

/-- What has come in a whole frame. -/
def Inbound.ofPayload (payload : List UInt8) : Inbound :=
  match Envelope.ofBytes payload with
  | .ok e => .message e
  | .error fault => .malformed fault

/-- The name of a server that is not given another one. -/
def defaultServerId : String := "EPP Server Stub"

structure Service where
  registry : Registry := {}
  credentials : Credentials := {}
  serverId : String := defaultServerId
  menu : ServiceMenu := .standard
  /-- The failed logins after which the next one closes the session. -/
  maxFailedLogins : Nat := 2

/-! ## What is told of an object -/

/-- The statuses of an object: whether it is linked comes first, and an object without statuses of
its own is in order. -/
def statusFlags (linked : Bool) (statuses : List String) : List String :=
  (if linked then ["linked"] else []) ++ statuses ++ (if statuses.isEmpty then ["ok"] else [])

namespace History

/-- The time of the last update, told only together with who made it. -/
def updatedText (h : History) : Option String :=
  match h.updater with
  | none => none
  | some _ => h.updated.map (·.text)

end History

/-- What is told of a domain. Its password is told to its sponsor only. -/
def DomainRecord.data (r : DomainRecord) (filter : HostsFilter) (sponsor : Bool) : DomainData :=
  { schema := ObjectKind.domain.schema
    name := r.name
    roid := r.history.roid
    statuses := statusFlags false r.statuses
    registrant := r.registrant.getD ""
    contacts := (r.admin.map (DomainContact.mk .admin)).toList ++
      (r.billing.map (DomainContact.mk .billing)).toList ++
      (r.tech.map (DomainContact.mk .tech)).toList
    nameservers := if filter.wantsDelegated then r.nameservers else []
    hosts := if filter.wantsSubordinate then r.hosts else []
    clientId := r.history.sponsor
    creatorId := r.history.creator
    created := r.history.created.text
    updaterId := r.history.updater
    updated := r.history.updatedText
    expires := r.expires.text
    transferred := r.history.transferred.map (·.text)
    authInfo := if sponsor then some r.authPassword else none }

/-- What is told of a host. -/
def HostRecord.data (r : HostRecord) : HostData :=
  { schema := ObjectKind.host.schema
    name := r.name
    roid := r.history.roid
    statuses := statusFlags r.linked r.statuses
    addresses := r.addresses
    clientId := r.history.sponsor
    creatorId := r.history.creator
    created := r.history.created.text
    updaterId := r.history.updater
    updated := r.history.updatedText
    transferred := r.history.transferred.map (·.text) }

/-- What is told of a contact. Its password is told to its sponsor only. -/
def ContactRecord.data (r : ContactRecord) (sponsor : Bool) : ContactData :=
  { schema := ObjectKind.contact.schema
    id := r.id
    roid := r.history.roid
    statuses := statusFlags r.linked r.statuses
    postalInfo := [⟨"int", r.name, r.org, ⟨r.street, r.city, r.state, r.postalCode, r.country⟩⟩]
    voice := ⟨r.voice, r.voiceExtension⟩
    fax := ⟨r.fax, r.faxExtension⟩
    email := r.email
    clientId := r.history.sponsor
    creatorId := r.history.creator
    created := r.history.created.text
    updaterId := r.history.updater
    updated := r.history.updatedText
    transferred := r.history.transferred.map (·.text)
    authInfo := if sponsor then some r.authPassword else none }

/-! ## Replies -/

/-- A reply and the session after it. -/
abbrev Reply := Envelope × Session

namespace Session

/-- The reply with a code. -/
def respond (s : Session) (code : ResultCode) (client : String) : Reply :=
  (.ofResponse (.ofCode code client s.transactionId), s.advance)

/-- The reply of success with data. -/
def respondWith (s : Session) (client : String) (data : ResultData) : Reply :=
  (.ofResponse ((Response.ofCode .commandSuccessful client s.transactionId).withData data),
    s.advance)

end Session

namespace Service

/-- The greeting at a time. -/
def greeting (v : Service) (now : Calendar.Instant) : Envelope :=
  .ofGreeting { serverId := v.serverId, serverDate := now.text, menu := v.menu }

/-- The client's identifier of a message, empty if it has none. -/
def clientId (e : Envelope) : String := (e.transactionId.toOption).getD ""

/-! ## Before the login -/

/-- A login with a right password binds its account. -/
def handleLogin (v : Service) (s : Session) (login : Login) (client : String) : Reply :=
  match v.credentials.authenticate login.clientId login.password with
  | some account => (s.logIn account).respond .commandSuccessful client
  | none =>
    let s := { s with refusals := s.refusals + 1 }
    if v.maxFailedLogins ≤ s.failedLogins then
      (s.moveTo .closeConnection).respond .authenticationErrorClosing client
    else { s with failedLogins := s.failedLogins + 1 }.respond .authenticationError client

/-- Whether a message is a login and nothing else. -/
def login? (e : Envelope) : Option Login :=
  if e.tag = .command .login then e.command.bind (·.login) else none

def handleClient (v : Service) (s : Session) (e : Envelope) : Reply :=
  match login? e with
  | some login => v.handleLogin s login (clientId e)
  | none => (s.moveTo .closeConnection).respond .commandUseError (clientId e)

/-! ## After the login -/

/-- Which of the names are free. -/
def availability (v : Service) (k : ObjectKind) (names : List String) : List CheckItem :=
  names.map fun name => ⟨name, !v.registry.holds k name, none⟩

def handleCheck (v : Service) (s : Session) (c : Check) (client : String) : Reply :=
  s.respondWith client {
    domainCheck := c.domain.map (v.availability .domain)
    hostCheck := c.host.map (v.availability .host)
    contactCheck := c.contact.map (v.availability .contact) }

/-- What is told of the object, if there is one. -/
def describe (v : Service) (s : Session) (filter : HostsFilter) :
    ObjectKind → String → Option ResultData
  | .domain, name => (v.registry.domain? name).map fun r =>
      { domainInfo := some (r.data filter (s.sponsors r.history.sponsor)) }
  | .host, name => (v.registry.host? name).map fun r => { hostInfo := some r.data }
  | .contact, id => (v.registry.contact? id).map fun r =>
      { contactInfo := some (r.data (s.sponsors r.history.sponsor)) }

def handleInfo (v : Service) (s : Session) (x : Info) (client : String) : Reply :=
  match x.target? with
  | none => s.respond .unknownCommand client
  | some (kind, name) =>
    match v.describe s ((x.domain.map (·.hosts)).getD .all) kind name with
    | some data => s.respondWith client data
    | none => s.respond .objectDoesNotExist client

def handleUpdate (v : Service) (s : Session) (x : Update) (client : String) : Reply :=
  match x.target? with
  | none => s.respond .unknownCommand client
  | some (kind, name) =>
    match v.registry.sponsor? kind name with
    | none => s.respond .objectDoesNotExist client
    | some sponsor =>
      if s.sponsors sponsor then s.respond .commandSuccessful client
      else s.respond .authorizationError client

/-- The reply to one part of a command, which has to be there. -/
def handlePart {α : Type} (s : Session) (part : Option α) (client : String)
    (handle : α → String → Reply) : Reply :=
  match part with
  | some x => handle x client
  | none => s.respond .unknownCommand client

def handleCommand (v : Service) (now : Calendar.Instant) (s : Session) (e : Envelope) : Reply :=
  let client := clientId e
  match e.tag with
  | .hello => (v.greeting now, s)
  | .command .logout => (s.moveTo .closeConnection).respond .completedEndingSession client
  | .command .login => s.respond .commandUseError client
  | .command (.check (some _)) =>
    handlePart s (e.command.bind (·.check)) client (v.handleCheck s)
  | .command (.info (some _)) => handlePart s (e.command.bind (·.info)) client (v.handleInfo s)
  | .command (.update (some _)) =>
    handlePart s (e.command.bind (·.update)) client (v.handleUpdate s)
  | .command tag =>
    if tag.isClassified then s.respond .unimplementedCommand client
    else s.respond .unknownCommand client
  | _ => s.respond .unknownCommand client

/-! ## Any message -/

/-- The reply to what has come, whatever it is. -/
def handle (v : Service) (now : Calendar.Instant) (s : Session) (inbound : Inbound) : Reply :=
  let s := s.received
  match inbound with
  | .malformed _ => s.respond .commandSyntaxError ""
  | .message e =>
    let e := e.typed
    match s.state with
    | .waitingForClient => v.handleClient s e
    | .waitingForCommand => v.handleCommand now s e
    | .prepareGreeting => s.respond .commandUseError (clientId e)
    | .closeConnection => s.respond .commandUseError (clientId e)

end Service

end Provisioning
