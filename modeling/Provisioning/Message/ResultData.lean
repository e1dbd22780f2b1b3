import Provisioning.Object.Address
import Provisioning.Object.Contact
import Provisioning.Object.Postal

/-!
# Result data

What a response tells about objects: which exist, what was created, what is known of one, until when
it is registered, and how far its transfer is. Data is read without regard to its kind, every field
that any kind may have; typing it fills the slot of each kind it declares.
-/

namespace Provisioning

open Markup

/-! ## The data of each kind -/

/-- Whether a name can be had, and why not. -/
structure CheckItem where
  value : String
  available : Bool
  reason : Option String := none
  deriving DecidableEq

structure DomainCreated where
  schema : String
  name : String
  created : String
  expires : String
  deriving DecidableEq

structure HostCreated where
  schema : String
  name : String
  created : String
  deriving DecidableEq

structure ContactCreated where
  schema : String
  id : String
  created : String
  deriving DecidableEq

/-- What is known of a domain. -/
structure DomainData where
  schema : String
  name : String
  roid : String := ""
  statuses : List String := []
  registrant : String := ""
  contacts : List DomainContact := []
  nameservers : List String := []
  /-- The hosts whose names lie under the domain. -/
  hosts : List String := []
  clientId : String := ""
  creatorId : String := ""
  created : String := ""
  updaterId : Option String := none
  updated : Option String := none
  expires : String := ""
  transferred : Option String := none
  authInfo : Option String := none
  deriving DecidableEq

/-- What is known of a host. -/
structure HostData where
  schema : String
  name : String
  roid : String := ""
  statuses : List String := []
  addresses : List HostAddress := []
  clientId : String := ""
  creatorId : String := ""
  created : String := ""
  updaterId : Option String := none
  updated : Option String := none
  transferred : Option String := none
  deriving DecidableEq

/-- What is known of a contact. -/
structure ContactData where
  schema : String
  id : String
  roid : String := ""
  statuses : List String := []
  postalInfo : List PostalInfo := []
  voice : Phone := {}
  fax : Phone := {}
  email : String := ""
  clientId : String := ""
  creatorId : String := ""
  created : String := ""
  updaterId : Option String := none
  updated : Option String := none
  transferred : Option String := none
  authInfo : Option String := none
  disclose : Option Disclose := none
  deriving DecidableEq

structure DomainRenewed where
  schema : String
  name : String
  expires : String
  deriving DecidableEq

/-- How far a transfer is: who asked for it and who has to act on it. -/
structure TransferState where
  status : String
  requester : String
  requested : String
  acting : String
  acted : String
  deriving DecidableEq

structure DomainTransferred where
  schema : String
  name : String
  state : TransferState
  expires : String
  deriving DecidableEq

structure ContactTransferred where
  schema : String
  id : String
  state : TransferState
  deriving DecidableEq

/-! ## Data whose kinds are only declared -/

/-- Availability under the name of a domain or host, and under that of a contact. -/
structure UntypedCheckItem where
  name : String
  nameAvailable : Bool
  id : String
  idAvailable : Bool
  reason : Option String
  deriving DecidableEq

structure UntypedChecked where
  namespaces : Namespaces
  items : List UntypedCheckItem
  deriving DecidableEq

structure UntypedCreated where
  namespaces : Namespaces
  name : String
  id : String
  created : String
  expires : String
  deriving DecidableEq

structure UntypedData where
  namespaces : Namespaces := {}
  name : String := ""
  id : String := ""
  roid : String := ""
  statuses : List String := []
  registrant : String := ""
  contacts : List UntypedContact := []
  nameservers : List String := []
  addresses : List UntypedAddress := []
  hosts : List String := []
  clientId : String := ""
  creatorId : String := ""
  created : String := ""
  expires : String := ""
  updaterId : Option String := none
  updated : Option String := none
  transferred : Option String := none
  voice : Phone := {}
  fax : Phone := {}
  /-- The password, unless it is empty. -/
  password : Option String := none
  email : String := ""
  disclose : Option Disclose := none
  postalInfo : List PostalInfo := []
  deriving DecidableEq

structure UntypedRenewed where
  namespaces : Namespaces
  name : String
  expires : String
  deriving DecidableEq

structure UntypedTransferred where
  namespaces : Namespaces
  name : String
  id : String
  state : TransferState
  expires : String
  deriving DecidableEq

/-- All data of a response. -/
structure ResultData where
  domainCheck : Option (List CheckItem) := none
  domainCreate : Option DomainCreated := none
  domainInfo : Option DomainData := none
  domainRenew : Option DomainRenewed := none
  domainTransfer : Option DomainTransferred := none
  hostCheck : Option (List CheckItem) := none
  hostCreate : Option HostCreated := none
  hostInfo : Option HostData := none
  contactCheck : Option (List CheckItem) := none
  contactCreate : Option ContactCreated := none
  contactInfo : Option ContactData := none
  contactTransfer : Option ContactTransferred := none
  untypedCheck : Option UntypedChecked := none
  untypedCreate : Option UntypedCreated := none
  untypedInfo : Option UntypedData := none
  untypedRenew : Option UntypedRenewed := none
  untypedTransfer : Option UntypedTransferred := none
  deriving DecidableEq

/-! ## Typing -/

/-- The item about a contact, or about a domain or host. -/
def UntypedCheckItem.item (x : UntypedCheckItem) : ObjectKind → CheckItem
  | .contact => ⟨x.id, x.idAvailable, x.reason⟩
  | _ => ⟨x.name, x.nameAvailable, x.reason⟩

def UntypedChecked.itemsOf (x : UntypedChecked) (k : ObjectKind) : List CheckItem :=
  x.items.map (·.item k)

namespace UntypedData

/-- The first kind that is declared. -/
def kind? (x : UntypedData) : Option ObjectKind := x.namespaces.kinds.head?

/-- The value, if the data declares the kind. -/
def describing {α : Type} (x : UntypedData) (k : ObjectKind) (value : α) : Reading α :=
  if x.namespaces.has k then .ok value else .error (.notKind k)

def domain (x : UntypedData) : Reading DomainData :=
  x.describing .domain {
    schema := x.namespaces.schemaText
    name := x.name
    roid := x.roid
    statuses := x.statuses
    registrant := x.registrant
    contacts := UntypedContact.typedList x.contacts
    nameservers := x.nameservers
    hosts := x.hosts
    clientId := x.clientId
    creatorId := x.creatorId
    created := x.created
    updaterId := x.updaterId
    updated := x.updated
    expires := x.expires
    transferred := x.transferred
    authInfo := x.password }

def host (x : UntypedData) : Reading HostData :=
  x.describing .host {
    schema := x.namespaces.schemaText
    name := x.name
    roid := x.roid
    statuses := x.statuses
    addresses := UntypedAddress.typedList x.addresses
    clientId := x.clientId
    creatorId := x.creatorId
    created := x.created
    updaterId := x.updaterId
    updated := x.updated
    transferred := x.transferred }

def contact (x : UntypedData) : Reading ContactData :=
  x.describing .contact {
    schema := x.namespaces.schemaText
    id := x.id
    roid := x.roid
    statuses := x.statuses
    postalInfo := x.postalInfo
    voice := x.voice
    fax := x.fax
    email := x.email
    clientId := x.clientId
    creatorId := x.creatorId
    created := x.created
    updaterId := x.updaterId
    updated := x.updated
    transferred := x.transferred
    authInfo := x.password
    disclose := x.disclose }

end UntypedData

namespace ResultData

/-- Checked names in the slot of each kind that they declare. -/
def addChecked (d : ResultData) (x : UntypedChecked) : ResultData :=
  { d with
    domainCheck := x.namespaces.fill .domain (x.itemsOf .domain) d.domainCheck
    hostCheck := x.namespaces.fill .host (x.itemsOf .host) d.hostCheck
    contactCheck := x.namespaces.fill .contact (x.itemsOf .contact) d.contactCheck }

def addCreated (d : ResultData) (x : UntypedCreated) : ResultData :=
  let ns := x.namespaces
  { d with
    domainCreate := ns.fill .domain ⟨ns.schemaText, x.name, x.created, x.expires⟩ d.domainCreate
    hostCreate := ns.fill .host ⟨ns.schemaText, x.name, x.created⟩ d.hostCreate
    contactCreate := ns.fill .contact ⟨ns.schemaText, x.id, x.created⟩ d.contactCreate }

def addInfo (d : ResultData) (x : UntypedData) : ResultData :=
  { d with
    domainInfo := x.domain.toOption.or d.domainInfo
    hostInfo := x.host.toOption.or d.hostInfo
    contactInfo := x.contact.toOption.or d.contactInfo }

def addRenewed (d : ResultData) (x : UntypedRenewed) : ResultData :=
  let ns := x.namespaces
  { d with domainRenew := ns.fill .domain ⟨ns.schemaText, x.name, x.expires⟩ d.domainRenew }

def addTransferred (d : ResultData) (x : UntypedTransferred) : ResultData :=
  let ns := x.namespaces
  { d with
    domainTransfer :=
      ns.fill .domain ⟨ns.schemaText, x.name, x.state, x.expires⟩ d.domainTransfer
    contactTransfer := ns.fill .contact ⟨ns.schemaText, x.id, x.state⟩ d.contactTransfer }

/-- One more step for data that is there. -/
def addIf {α : Type} (add : ResultData → α → ResultData) (value : Option α)
    (d : ResultData) : ResultData :=
  match value with
  | none => d
  | some x => add d x

/-- The data without its untyped part. -/
def withoutUntyped (d : ResultData) : ResultData :=
  { d with
    untypedCheck := none
    untypedCreate := none
    untypedInfo := none
    untypedRenew := none
    untypedTransfer := none }

/-- All data in the slots of the kinds that it declares. -/
def typed (d : ResultData) : ResultData :=
  let checked := addIf addChecked d.untypedCheck d.withoutUntyped
  let created := addIf addCreated d.untypedCreate checked
  let info := addIf addInfo d.untypedInfo created
  let renewed := addIf addRenewed d.untypedRenew info
  addIf addTransferred d.untypedTransfer renewed

end ResultData

/-! ## Writing -/

def CheckItem.toElement (k : ObjectKind) (x : CheckItem) : Element :=
  let key := if k = .contact then "id" else "name"
  k.node "cd" ((k.leaf key x.value).withAttr "avail" (flagText x.available) ::
    (x.reason.map (k.leaf "reason")).toList)

/-- The checked names of a kind. -/
def checkedElement (k : ObjectKind) (items : List CheckItem) : Element :=
  k.responseRoot "chkData" k.schema (items.map (CheckItem.toElement k))

def DomainCreated.toElement (x : DomainCreated) : Element :=
  let d := ObjectKind.domain
  d.responseRoot "creData" x.schema
    [d.leaf "name" x.name, d.leaf "crDate" x.created, d.leaf "exDate" x.expires]

def HostCreated.toElement (x : HostCreated) : Element :=
  let h := ObjectKind.host
  h.responseRoot "creData" x.schema [h.leaf "name" x.name, h.leaf "crDate" x.created]

def ContactCreated.toElement (x : ContactCreated) : Element :=
  let c := ObjectKind.contact
  c.responseRoot "creData" x.schema [c.leaf "id" x.id, c.leaf "crDate" x.created]

def DomainData.toElement (x : DomainData) : Element :=
  let d := ObjectKind.domain
  d.responseRoot "infData" x.schema (
    [d.leaf "name" x.name, d.leaf "roid" x.roid] ++ d.statuses x.statuses ++
    [d.leaf "registrant" x.registrant] ++ x.contacts.map (·.toElement) ++
    [Provisioning.nameservers x.nameservers] ++ x.hosts.map (d.leaf "host") ++
    [d.leaf "clID" x.clientId, d.leaf "crID" x.creatorId, d.leaf "crDate" x.created] ++
    (x.updaterId.map (d.leaf "upID")).toList ++ (x.updated.map (d.leaf "upDate")).toList ++
    [d.leaf "exDate" x.expires] ++ (x.transferred.map (d.leaf "trDate")).toList ++
    (x.authInfo.map d.authInfo).toList)

def HostData.toElement (x : HostData) : Element :=
  let h := ObjectKind.host
  h.responseRoot "infData" x.schema (
    [h.leaf "name" x.name, h.leaf "roid" x.roid] ++ h.statuses x.statuses ++
    x.addresses.map (·.toElement) ++
    [h.leaf "clID" x.clientId, h.leaf "crID" x.creatorId, h.leaf "crDate" x.created] ++
    (x.updaterId.map (h.leaf "upID")).toList ++ (x.updated.map (h.leaf "upDate")).toList ++
    (x.transferred.map (h.leaf "trDate")).toList)

def ContactData.toElement (x : ContactData) : Element :=
  let c := ObjectKind.contact
  c.responseRoot "infData" x.schema (
    [c.leaf "id" x.id, c.leaf "roid" x.roid] ++ c.statuses x.statuses ++
    x.postalInfo.map (·.toElement) ++
    [x.voice.toElement "voice", x.fax.toElement "fax", c.leaf "email" x.email] ++
    [c.leaf "clID" x.clientId, c.leaf "crID" x.creatorId, c.leaf "crDate" x.created] ++
    (x.updaterId.map (c.leaf "upID")).toList ++ (x.updated.map (c.leaf "upDate")).toList ++
    (x.transferred.map (c.leaf "trDate")).toList ++ (x.authInfo.map c.authInfo).toList ++
    (x.disclose.map (·.toElement)).toList)

def DomainRenewed.toElement (x : DomainRenewed) : Element :=
  let d := ObjectKind.domain
  d.responseRoot "renData" x.schema [d.leaf "name" x.name, d.leaf "exDate" x.expires]

/-- The fields of a transfer of an object of the kind. -/
def TransferState.elements (x : TransferState) (k : ObjectKind) : List Element :=
  [k.leaf "trStatus" x.status, k.leaf "reID" x.requester, k.leaf "reDate" x.requested,
    k.leaf "acID" x.acting, k.leaf "acDate" x.acted]

def DomainTransferred.toElement (x : DomainTransferred) : Element :=
  let d := ObjectKind.domain
  d.responseRoot "trnData" x.schema
    ([d.leaf "name" x.name] ++ x.state.elements d ++ [d.leaf "exDate" x.expires])

def ContactTransferred.toElement (x : ContactTransferred) : Element :=
  let c := ObjectKind.contact
  c.responseRoot "trnData" x.schema (c.leaf "id" x.id :: x.state.elements c)

def ResultData.toElement (x : ResultData) : Element :=
  .node "resData" (
    (x.domainCheck.map (checkedElement .domain)).toList ++
    (x.domainCreate.map (·.toElement)).toList ++ (x.domainInfo.map (·.toElement)).toList ++
    (x.domainRenew.map (·.toElement)).toList ++ (x.domainTransfer.map (·.toElement)).toList ++
    (x.hostCheck.map (checkedElement .host)).toList ++
    (x.hostCreate.map (·.toElement)).toList ++ (x.hostInfo.map (·.toElement)).toList ++
    (x.contactCheck.map (checkedElement .contact)).toList ++
    (x.contactCreate.map (·.toElement)).toList ++ (x.contactInfo.map (·.toElement)).toList ++
    (x.contactTransfer.map (·.toElement)).toList)

/-! ## Reading -/

def UntypedCheckItem.ofElement (e : Element) : UntypedCheckItem :=
  let available (field : String) : Bool := readFlag ((e.child? field).bind (·.attr? "avail"))
  { name := e.childText "name"
    nameAvailable := available "name"
    id := e.childText "id"
    idAvailable := available "id"
    reason := e.filledChildText? "reason" }

def UntypedChecked.ofElement (e : Element) : UntypedChecked :=
  ⟨.ofElement e, (e.childrenNamed "cd").map UntypedCheckItem.ofElement⟩

def UntypedCreated.ofElement (e : Element) : UntypedCreated :=
  ⟨.ofElement e, e.childText "name", e.childText "id", e.childText "crDate",
    e.childText "exDate"⟩

def UntypedData.ofElement (e : Element) : UntypedData :=
  { namespaces := .ofElement e
    name := e.childText "name"
    id := e.childText "id"
    roid := e.childText "roid"
    statuses := readStatuses e
    registrant := e.childText "registrant"
    contacts := UntypedContact.childrenOf e
    nameservers := readNameservers e
    addresses := UntypedAddress.childrenOf e
    hosts := e.childTexts "host"
    clientId := e.childText "clID"
    creatorId := e.childText "crID"
    created := e.childText "crDate"
    expires := e.childText "exDate"
    updaterId := e.filledChildText? "upID"
    updated := e.filledChildText? "upDate"
    transferred := e.filledChildText? "trDate"
    voice := (Phone.childOf e "voice").getD {}
    fax := (Phone.childOf e "fax").getD {}
    password := (e.child? "authInfo").bind (·.filledChildText? "pw")
    email := e.childText "email"
    disclose := (e.child? "disclose").map Disclose.ofElement
    postalInfo := PostalInfo.childrenOf e }

def UntypedRenewed.ofElement (e : Element) : UntypedRenewed :=
  ⟨.ofElement e, e.childText "name", e.childText "exDate"⟩

def TransferState.ofElement (e : Element) : TransferState :=
  ⟨e.childText "trStatus", e.childText "reID", e.childText "reDate", e.childText "acID",
    e.childText "acDate"⟩

def UntypedTransferred.ofElement (e : Element) : UntypedTransferred :=
  ⟨.ofElement e, e.childText "name", e.childText "id", .ofElement e, e.childText "exDate"⟩

/-- The first element of each name is read; all others are skipped. -/
def ResultData.ofElement (e : Element) : ResultData :=
  { untypedCheck := (e.child? "chkData").map UntypedChecked.ofElement
    untypedCreate := (e.child? "creData").map UntypedCreated.ofElement
    untypedInfo := (e.child? "infData").map UntypedData.ofElement
    untypedRenew := (e.child? "renData").map UntypedRenewed.ofElement
    untypedTransfer := (e.child? "trnData").map UntypedTransferred.ofElement }

end Provisioning
