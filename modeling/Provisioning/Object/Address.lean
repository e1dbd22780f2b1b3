import Provisioning.Object.Namespaces

/-!
# Addresses of hosts

An address of one of the two versions of the internet protocol. Documents may name other versions;
such addresses are read, but dropped when the versions are looked at.
-/

namespace Provisioning

open Markup

/-- The version of an address. -/
inductive IpVersion where
  | v4
  | v6
  deriving DecidableEq

def IpVersion.label : IpVersion → String
  | .v4 => "v4"
  | .v6 => "v6"

def IpVersion.ofLabel? : String → Option IpVersion
  | "v4" => some .v4
  | "v6" => some .v6
  | _ => none

/-- An address of a host. -/
structure HostAddress where
  ip : IpVersion
  address : String
  deriving DecidableEq

def HostAddress.toElement (a : HostAddress) : Element :=
  (ObjectKind.host.leaf "addr" a.address).withAttr "ip" a.ip.label

/-- An address whose version is still a name. -/
structure UntypedAddress where
  ip : String
  address : String
  deriving DecidableEq

namespace UntypedAddress

/-- An address without a version is of version 4. -/
def ofElement (e : Element) : UntypedAddress := ⟨(e.attr? "ip").getD "v4", e.text⟩

/-- The addresses among the children of an object. -/
def childrenOf (e : Element) : List UntypedAddress :=
  (e.childrenNamed "addr").map ofElement

def typed? (a : UntypedAddress) : Option HostAddress :=
  (IpVersion.ofLabel? a.ip).map fun ip => ⟨ip, a.address⟩

/-- The addresses whose version is known. -/
def typedList (as : List UntypedAddress) : List HostAddress := as.filterMap typed?

end UntypedAddress

end Provisioning
