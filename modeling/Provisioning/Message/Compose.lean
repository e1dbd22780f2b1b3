import Provisioning.Message.Command

/-!
# Commands that a client gives

One function for each thing that a client can ask. The names of domains and hosts are sent in upper
case. A command about a named object goes to the product that the standard policy finds for the
first name; contacts are named as they are.
-/

namespace Provisioning

/-- A password, unless it is empty. -/
def givenPassword (password : String) : Option String :=
  if password = "" then none else some password

/-- The new domain with the password, unless that is empty. -/
def DomainCreate.withPassword (x : DomainCreate) (password : String) : DomainCreate :=
  { x with authInfo := (givenPassword password).or x.authInfo }

/-- The new contact with the password, unless that is empty. -/
def ContactCreate.withPassword (x : ContactCreate) (password : String) : ContactCreate :=
  { x with authInfo := (givenPassword password).or x.authInfo }

namespace Command

/-- A command without a verb. -/
def blank (id : String) : Command := { transactionId := id }

/-- The command about the product that the standard policy finds for the name. -/
def withStandardPolicy (c : Command) (name : String) : Command :=
  c.withPolicy .standard name

/-! ## The session and its messages -/

def ofLogin (login : Login) (id : String) : Command := { blank id with login := some login }

def logIn (clientId password id : String) (menu : ServiceMenu) : Command :=
  ofLogin (.ofMenu clientId password menu) id

/-- A login that also sets a new password. -/
def logInWithNewPassword (clientId password newPassword id : String) (menu : ServiceMenu) :
    Command :=
  ofLogin { Login.ofMenu clientId password menu with newPassword := some newPassword } id

def logOut (id : String) : Command := { blank id with logout := true }

def requestMessage (id : String) : Command := { blank id with poll := some ⟨.request, none⟩ }

def acknowledgeMessage (messageId id : String) : Command :=
  { blank id with poll := some ⟨.acknowledge, some messageId⟩ }

/-! ## Check -/

/-- Which domains exist. -/
def checkDomains (names : List String) (id : String) : Command :=
  let names := names.map Text.upper
  { blank id with check := some { domain := some names } }.withStandardPolicy (names.headD "")

/-- Which hosts exist. -/
def checkHosts (names : List String) (id : String) : Command :=
  let names := names.map Text.upper
  { blank id with check := some { host := some names } }.withStandardPolicy (names.headD "")

/-- Which contacts exist. -/
def checkContacts (ids : List String) (id : String) : Command :=
  { blank id with check := some { contact := some ids } }.withStandardPolicy (ids.headD "")

/-! ## Create -/

def createDomain (x : DomainCreate) (id : String) : Command :=
  let name := Text.upper x.name
  { blank id with create := some { domain := some { x with name } } }.withStandardPolicy name

def createHost (x : HostCreate) (id : String) : Command :=
  let name := Text.upper x.name
  { blank id with create := some { host := some { x with name } } }.withStandardPolicy name

def createContact (x : ContactCreate) (id : String) : Command :=
  { blank id with create := some { contact := some x } }.withStandardPolicy x.id

/-! ## Delete -/

def deleteDomain (name id : String) : Command :=
  let name := Text.upper name
  { blank id with delete := some { domain := some name } }.withStandardPolicy name

def deleteHost (name id : String) : Command :=
  let name := Text.upper name
  { blank id with delete := some { host := some name } }.withStandardPolicy name

def deleteContact (contact id : String) : Command :=
  { blank id with delete := some { contact := some contact } }.withStandardPolicy contact

/-! ## Info -/

def infoDomain (name password : String) (hosts : HostsFilter) (id : String) : Command :=
  let name := Text.upper name
  { blank id with
    info := some { domain := some ⟨name, hosts, givenPassword password⟩ } }.withStandardPolicy name

def infoHost (name password id : String) : Command :=
  let name := Text.upper name
  { blank id with
    info := some { host := some ⟨name, givenPassword password⟩ } }.withStandardPolicy name

def infoContact (contact password id : String) : Command :=
  { blank id with
    info := some { contact := some ⟨contact, givenPassword password⟩ } }.withStandardPolicy contact

/-! ## Update -/

def updateDomain (name : String) (add remove : DomainSection) (change : DomainChange)
    (id : String) : Command :=
  let name := Text.upper name
  { blank id with
    update := some { domain := some ⟨name, add, remove, change⟩ } }.withStandardPolicy name

def updateHost (name : String) (add remove : HostSection) (newName : Option String)
    (id : String) : Command :=
  let name := Text.upper name
  { blank id with
    update := some { host := some ⟨name, add, remove, newName.map Text.upper⟩ }
  }.withStandardPolicy name

def updateContact (contact : String) (addStatuses removeStatuses : List String)
    (change : ContactChange) (id : String) : Command :=
  { blank id with
    update := some { contact := some ⟨contact, addStatuses, removeStatuses, change⟩ }
  }.withStandardPolicy contact

/-! ## Renew and transfer -/

def renewDomain (name currentExpiry : String) (period : Period) (id : String) : Command :=
  let name := Text.upper name
  { blank id with
    renew := some { domain := some ⟨name, currentExpiry, period⟩ } }.withStandardPolicy name

/-- A step of the transfer of a domain. -/
def transferDomain (op : TransferOp) (x : DomainTransfer) (id : String) : Command :=
  let name := Text.upper x.name
  { blank id with
    transfer := some { op, domain := some { x with name } } }.withStandardPolicy name

/-- A step of the transfer of a contact. -/
def transferContact (op : TransferOp) (x : ContactTransfer) (id : String) : Command :=
  { blank id with transfer := some { op, contact := some x } }.withStandardPolicy x.id

/-! ## Extended updates of domains -/

/-- An update of a domain that changes nothing but what its extension says. -/
def extendDomain (name : String) (extend : CommandExtension → CommandExtension) (id : String) :
    Command :=
  let c := updateDomain name {} {} {} id
  { c with extension := some (extend (c.extension.getD {})) }

/-- Asks that a deleted domain be restored. -/
def requestRestore (name id : String) : Command :=
  extendDomain name (fun x => { x with restore := some ⟨.request, none⟩ }) id

/-- Reports why a deleted domain is restored. -/
def reportRestore (name : String) (report : RestoreReport) (id : String) : Command :=
  extendDomain name (fun x => { x with restore := some ⟨.report, some report⟩ }) id

/-- Moves the end of a registration to a day of the year, which has to exist. -/
def syncDomain (name : String) (month day : Nat) (id : String) : Reading Command :=
  (Sync.ofMonthDay month day).map fun sync =>
    extendDomain name (fun x => { x with sync := some sync }) id

/-- Changes the records that sign the delegation of a domain. -/
def signDomain (name : String) (add remove : List DsRecord) (id : String) : Command :=
  extendDomain name (fun x => { x with secDns := some ⟨remove, add⟩ }) id

end Command

end Provisioning
