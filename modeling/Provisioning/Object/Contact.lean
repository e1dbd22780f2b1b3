import Provisioning.Object.Namespaces
import Provisioning.Text.Upper

/-!
# Contacts of a domain

A contact is attached to a domain in one of three roles. Documents may name other roles; such
contacts are read, but dropped when the roles are looked at.
-/

namespace Provisioning

open Markup

/-- What a contact is responsible for. -/
inductive ContactRole where
  | admin
  | billing
  | tech
  deriving DecidableEq

namespace ContactRole

def label : ContactRole → String
  | .admin => "admin"
  | .billing => "billing"
  | .tech => "tech"

/-- The role of a name, the case of ASCII letters aside. -/
def ofName (name : String) : Reading ContactRole :=
  match Text.lowerAscii name with
  | "admin" => .ok .admin
  | "billing" => .ok .billing
  | "tech" => .ok .tech
  | _ => .error (.unknownContactType name)

end ContactRole

/-- A contact and its role. -/
structure DomainContact where
  role : ContactRole
  id : String
  deriving DecidableEq

def DomainContact.toElement (c : DomainContact) : Element :=
  (ObjectKind.domain.leaf "contact" c.id).withAttr "type" c.role.label

/-- A contact whose role is still a name. -/
structure UntypedContact where
  role : String
  id : String
  deriving DecidableEq

namespace UntypedContact

def ofElement (e : Element) : UntypedContact := ⟨(e.attr? "type").getD "", e.text⟩

/-- The contacts among the children of an object. -/
def childrenOf (e : Element) : List UntypedContact :=
  (e.childrenNamed "contact").map ofElement

def typed (c : UntypedContact) : Reading DomainContact :=
  (ContactRole.ofName c.role).map fun role => ⟨role, c.id⟩

/-- The contacts whose role is known. -/
def typedList (cs : List UntypedContact) : List DomainContact :=
  cs.filterMap fun c => c.typed.toOption

end UntypedContact

end Provisioning
