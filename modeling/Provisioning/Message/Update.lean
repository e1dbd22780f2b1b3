import Provisioning.Object.Address
import Provisioning.Object.Contact
import Provisioning.Object.Postal

/-!
# Update: changes to an object

An update says what is added, what is removed and what is changed. For domains and contacts the
three sections are always written, also when they are empty; for a host the changes are written
only when it gets a new name.
-/

namespace Provisioning

open Markup

/-- What is added to or removed from a domain. -/
structure DomainSection where
  hosts : List String := []
  contacts : List DomainContact := []
  statuses : List String := []
  deriving DecidableEq

/-- What is changed of a domain. -/
structure DomainChange where
  registrant : Option String := none
  authInfo : Option String := none
  deriving DecidableEq

structure DomainUpdate where
  name : String
  add : DomainSection := {}
  remove : DomainSection := {}
  change : DomainChange := {}
  deriving DecidableEq

/-- What is added to or removed from a host. -/
structure HostSection where
  addresses : List HostAddress := []
  statuses : List String := []
  deriving DecidableEq

structure HostUpdate where
  name : String
  add : HostSection := {}
  remove : HostSection := {}
  newName : Option String := none
  deriving DecidableEq

/-- What is changed of a contact. -/
structure ContactChange where
  postalInfo : Option PostalInfo := none
  voice : Option Phone := none
  fax : Option Phone := none
  email : Option String := none
  authInfo : Option String := none
  deriving DecidableEq

structure ContactUpdate where
  id : String
  addStatuses : List String := []
  removeStatuses : List String := []
  change : ContactChange := {}
  deriving DecidableEq

/-- What is added or removed when the kind is only declared. -/
structure UntypedSection where
  hosts : List String := []
  contacts : List UntypedContact := []
  statuses : List String := []
  addresses : List UntypedAddress := []
  deriving DecidableEq

/-- What is changed when the kind is only declared. -/
structure UntypedChange where
  registrant : Option String := none
  name : Option String := none
  postalInfo : Option PostalInfo := none
  voice : Option Phone := none
  fax : Option Phone := none
  email : Option String := none
  authInfo : Option String := none
  deriving DecidableEq

/-- An update whose kinds are only declared. -/
structure UntypedUpdate where
  namespaces : Namespaces
  name : String
  id : String
  add : UntypedSection
  remove : UntypedSection
  change : Option UntypedChange
  deriving DecidableEq

/-- The updates, at most one of each kind. -/
structure Update where
  domain : Option DomainUpdate := none
  host : Option HostUpdate := none
  contact : Option ContactUpdate := none
  untyped : Option UntypedUpdate := none
  deriving DecidableEq

/-! ## Writing -/

def DomainSection.toElement (s : DomainSection) (name : String) : Element :=
  let d := ObjectKind.domain
  d.node name ((if s.hosts.isEmpty then [] else [nameservers s.hosts]) ++
    s.contacts.map (·.toElement) ++ d.statuses s.statuses)

def DomainUpdate.toElement (x : DomainUpdate) : Element :=
  let d := ObjectKind.domain
  d.commandRoot "update" [d.leaf "name" x.name, x.add.toElement "add", x.remove.toElement "rem",
    d.node "chg" ((x.change.registrant.map (d.leaf "registrant")).toList ++
      (x.change.authInfo.map d.authInfo).toList)]

def HostSection.toElement (s : HostSection) (name : String) : Element :=
  let h := ObjectKind.host
  h.node name (s.addresses.map (·.toElement) ++ h.statuses s.statuses)

def HostUpdate.toElement (x : HostUpdate) : Element :=
  let h := ObjectKind.host
  h.commandRoot "update" ([h.leaf "name" x.name, x.add.toElement "add", x.remove.toElement "rem"] ++
    (x.newName.map fun n => h.node "chg" [h.leaf "name" n]).toList)

def ContactUpdate.toElement (x : ContactUpdate) : Element :=
  let c := ObjectKind.contact
  c.commandRoot "update" [c.leaf "id" x.id, c.node "add" (c.statuses x.addStatuses),
    c.node "rem" (c.statuses x.removeStatuses),
    c.node "chg" ((x.change.postalInfo.map (·.toElement)).toList ++
      (x.change.voice.map (·.toElement "voice")).toList ++
      (x.change.fax.map (·.toElement "fax")).toList ++
      (x.change.email.map (c.leaf "email")).toList ++ (x.change.authInfo.map c.authInfo).toList)]

/-! ## Reading -/

/-- The section of a child; empty when there is no such child. -/
def UntypedSection.childOf (e : Element) (name : String) : UntypedSection :=
  match e.child? name with
  | none => {}
  | some s =>
    { hosts := readNameservers s
      contacts := UntypedContact.childrenOf s
      statuses := readStatuses s
      addresses := UntypedAddress.childrenOf s }

def UntypedSection.domain (s : UntypedSection) : DomainSection :=
  ⟨s.hosts, UntypedContact.typedList s.contacts, s.statuses⟩

def UntypedSection.host (s : UntypedSection) : HostSection :=
  ⟨UntypedAddress.typedList s.addresses, s.statuses⟩

def UntypedChange.ofElement (e : Element) : UntypedChange :=
  { registrant := e.filledChildText? "registrant"
    name := e.filledChildText? "name"
    postalInfo := (e.child? "postalInfo").map PostalInfo.ofElement
    voice := Phone.childOf e "voice"
    fax := Phone.childOf e "fax"
    email := e.filledChildText? "email"
    authInfo := readAuthInfo e }

namespace UntypedUpdate

def ofElement (e : Element) : UntypedUpdate :=
  { namespaces := .ofElement e
    name := e.childText "name"
    id := e.childText "id"
    add := .childOf e "add"
    remove := .childOf e "rem"
    change := (e.child? "chg").map UntypedChange.ofElement }

def domain (u : UntypedUpdate) : DomainUpdate :=
  let change := u.change.getD {}
  ⟨u.name, u.add.domain, u.remove.domain, ⟨change.registrant, change.authInfo⟩⟩

def host (u : UntypedUpdate) : HostUpdate :=
  ⟨u.name, u.add.host, u.remove.host, u.change.bind (·.name)⟩

def contact (u : UntypedUpdate) : ContactUpdate :=
  let change := u.change.getD {}
  ⟨u.id, u.add.statuses, u.remove.statuses,
    ⟨change.postalInfo, change.voice, change.fax, change.email, change.authInfo⟩⟩

end UntypedUpdate

namespace Update

/-- The untyped update under every kind it declares, in place of what stood there. -/
def typed (x : Update) : Update :=
  match x.untyped with
  | none => x
  | some u =>
    { domain := u.namespaces.fill .domain u.domain x.domain
      host := u.namespaces.fill .host u.host x.host
      contact := u.namespaces.fill .contact u.contact x.contact
      untyped := none }

/-- The object to be changed, if there is exactly one. -/
def target? (x : Update) : Option (ObjectKind × String) :=
  match x.domain, x.host, x.contact with
  | some d, none, none => some (.domain, d.name)
  | none, some h, none => some (.host, h.name)
  | none, none, some c => some (.contact, c.id)
  | _, _, _ => none

def toElement (x : Update) : Element :=
  .node "update" ((x.domain.map (·.toElement)).toList ++ (x.host.map (·.toElement)).toList ++
    (x.contact.map (·.toElement)).toList)

/-- The first child is the update, whatever its name. -/
def ofElement (e : Element) : Update :=
  { untyped := e.children.head?.map UntypedUpdate.ofElement }

end Update

end Provisioning
