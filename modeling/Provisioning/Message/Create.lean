import Provisioning.Object.Address
import Provisioning.Object.Contact
import Provisioning.Object.Period
import Provisioning.Object.Postal

/-!
# Create: new objects

What a new domain, host or contact consists of. The body of a document is read without regard to its
kind, every field that any kind may have; typing it gives one object of each kind it declares.
-/

namespace Provisioning

open Markup

/-- A new domain. -/
structure DomainCreate where
  name : String
  period : Period
  hosts : List String := []
  registrant : Option String := none
  contacts : List DomainContact := []
  authInfo : Option String := none
  deriving DecidableEq

/-- A new host. -/
structure HostCreate where
  name : String
  addresses : List HostAddress := []
  deriving DecidableEq

/-- A new contact. -/
structure ContactCreate where
  id : String
  postalInfo : List PostalInfo
  voice : Phone
  fax : Phone
  email : String
  authInfo : Option String := none
  deriving DecidableEq

/-- A new object whose kinds are only declared. -/
structure UntypedCreate where
  namespaces : Namespaces := {}
  id : String := ""
  name : String := ""
  period : Option Period := none
  registrant : Option String := none
  contacts : List UntypedContact := []
  postalInfo : List PostalInfo := []
  voice : Option Phone := none
  fax : Option Phone := none
  email : String := ""
  hosts : List String := []
  addresses : List UntypedAddress := []
  authInfo : Option String := none
  deriving DecidableEq

/-- The new objects, at most one of each kind. -/
structure Create where
  domain : Option DomainCreate := none
  host : Option HostCreate := none
  contact : Option ContactCreate := none
  untyped : Option UntypedCreate := none
  deriving DecidableEq

def DomainCreate.toElement (x : DomainCreate) : Element :=
  let d := ObjectKind.domain
  d.commandRoot "create" ([d.leaf "name" x.name, x.period.toElement d] ++
    (if x.hosts.isEmpty then [] else [nameservers x.hosts]) ++
    (x.registrant.map (d.leaf "registrant")).toList ++ x.contacts.map (·.toElement) ++
    (x.authInfo.map d.authInfo).toList)

def HostCreate.toElement (x : HostCreate) : Element :=
  let h := ObjectKind.host
  h.commandRoot "create" (h.leaf "name" x.name :: x.addresses.map (·.toElement))

def ContactCreate.toElement (x : ContactCreate) : Element :=
  let c := ObjectKind.contact
  c.commandRoot "create" ([c.leaf "id" x.id] ++ x.postalInfo.map (·.toElement) ++
    [x.voice.toElement "voice", x.fax.toElement "fax", c.leaf "email" x.email] ++
    (x.authInfo.map c.authInfo).toList)

namespace UntypedCreate

def ofElement (e : Element) : Reading UntypedCreate := do
  let period ← Period.childOf e
  return {
    namespaces := .ofElement e
    id := e.childText "id"
    name := e.childText "name"
    period
    registrant := e.filledChildText? "registrant"
    contacts := UntypedContact.childrenOf e
    postalInfo := PostalInfo.childrenOf e
    voice := Phone.childOf e "voice"
    fax := Phone.childOf e "fax"
    email := e.childText "email"
    hosts := readNameservers e
    addresses := UntypedAddress.childrenOf e
    authInfo := readAuthInfo e }

def domain (u : UntypedCreate) : DomainCreate :=
  { name := u.name
    period := u.period.getD Period.default
    hosts := u.hosts
    registrant := u.registrant
    contacts := UntypedContact.typedList u.contacts
    authInfo := u.authInfo }

def host (u : UntypedCreate) : HostCreate :=
  ⟨u.name, UntypedAddress.typedList u.addresses⟩

def contact (u : UntypedCreate) : ContactCreate :=
  { id := u.id
    postalInfo := u.postalInfo
    voice := u.voice.getD {}
    fax := u.fax.getD {}
    email := u.email
    authInfo := u.authInfo }

end UntypedCreate

namespace Create

/-- The untyped object under every kind it declares, in place of what stood there. -/
def typed (c : Create) : Create :=
  match c.untyped with
  | none => c
  | some u =>
    { domain := u.namespaces.fill .domain u.domain c.domain
      host := u.namespaces.fill .host u.host c.host
      contact := u.namespaces.fill .contact u.contact c.contact
      untyped := none }

def toElement (c : Create) : Element :=
  .node "create" ((c.domain.map (·.toElement)).toList ++ (c.host.map (·.toElement)).toList ++
    (c.contact.map (·.toElement)).toList)

/-- The first child is the object, whatever its name. -/
def ofElement (e : Element) : Reading Create :=
  match e.children.head? with
  | none => .ok {}
  | some c => (UntypedCreate.ofElement c).map fun u => { untyped := some u }

end Create

end Provisioning
