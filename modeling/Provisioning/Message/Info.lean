import Provisioning.Object.Namespaces

/-!
# Info: what is known of an object

An info asks for one object of each kind at most. For a domain it says which of its hosts are
wanted.
-/

namespace Provisioning

open Markup

/-- Which hosts of a domain are wanted: those that serve it, those under its name, both or none. -/
inductive HostsFilter where
  | all
  | delegated
  | subordinate
  | none
  deriving DecidableEq

namespace HostsFilter

def label : HostsFilter → String
  | .all => "all"
  | .delegated => "del"
  | .subordinate => "sub"
  | .none => "none"

def ofLabel? : String → Option HostsFilter
  | "all" => some .all
  | "del" => some .delegated
  | "sub" => some .subordinate
  | "none" => some .none
  | _ => Option.none

/-- Whether the hosts that serve the domain are wanted. -/
def wantsDelegated (f : HostsFilter) : Bool := f == .all || f == .delegated

/-- Whether the hosts under the domain's name are wanted. -/
def wantsSubordinate (f : HostsFilter) : Bool := f == .all || f == .subordinate

end HostsFilter

structure DomainInfo where
  name : String
  hosts : HostsFilter
  authInfo : Option String
  deriving DecidableEq

structure HostInfo where
  name : String
  authInfo : Option String
  deriving DecidableEq

structure ContactInfo where
  id : String
  authInfo : Option String
  deriving DecidableEq

/-- An object asked for whose kinds are only declared. -/
structure UntypedInfo where
  namespaces : Namespaces
  id : String
  name : String
  hosts : Option String
  authInfo : Option String
  deriving DecidableEq

/-- The objects asked for, by kind. -/
structure Info where
  domain : Option DomainInfo := none
  host : Option HostInfo := none
  contact : Option ContactInfo := none
  untyped : Option UntypedInfo := none
  deriving DecidableEq

namespace UntypedInfo

/-- All hosts are wanted unless a known filter is named. -/
def domain (u : UntypedInfo) : DomainInfo :=
  ⟨u.name, (u.hosts.bind HostsFilter.ofLabel?).getD .all, u.authInfo⟩

def host (u : UntypedInfo) : HostInfo := ⟨u.name, u.authInfo⟩

def contact (u : UntypedInfo) : ContactInfo := ⟨u.id, u.authInfo⟩

def ofElement (e : Element) : UntypedInfo :=
  { namespaces := .ofElement e
    id := e.childText "id"
    name := e.childText "name"
    hosts := (e.child? "name").bind (·.filledAttr? "hosts")
    authInfo := readAuthInfo e }

end UntypedInfo

namespace Info

/-- The untyped object under every kind it declares, in place of what stood there. -/
def typed (x : Info) : Info :=
  match x.untyped with
  | none => x
  | some u =>
    { domain := u.namespaces.fill .domain u.domain x.domain
      host := u.namespaces.fill .host u.host x.host
      contact := u.namespaces.fill .contact u.contact x.contact
      untyped := none }

/-- The object asked for, if there is exactly one. -/
def target? (x : Info) : Option (ObjectKind × String) :=
  match x.domain, x.host, x.contact with
  | some d, none, none => some (.domain, d.name)
  | none, some h, none => some (.host, h.name)
  | none, none, some c => some (.contact, c.id)
  | _, _, _ => none

def toElement (x : Info) : Element :=
  let body (k : ObjectKind) (name : Element) (authInfo : Option String) : Element :=
    k.commandRoot "info" (name :: (authInfo.map k.authInfo).toList)
  .node "info" (
    (x.domain.map fun d =>
      body .domain ((ObjectKind.domain.leaf "name" d.name).withAttr "hosts" d.hosts.label)
        d.authInfo).toList ++
    (x.host.map fun h => body .host (ObjectKind.host.leaf "name" h.name) h.authInfo).toList ++
    (x.contact.map fun c => body .contact (ObjectKind.contact.leaf "id" c.id) c.authInfo).toList)

/-- The first child is the object asked for, whatever its name. -/
def ofElement (e : Element) : Info :=
  { untyped := e.children.head?.map UntypedInfo.ofElement }

end Info

end Provisioning
