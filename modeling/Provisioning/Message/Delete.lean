import Provisioning.Object.Namespaces

/-!
# Delete: objects to be removed

A delete names one object of each kind at most.
-/

namespace Provisioning

open Markup

/-- A name whose kinds are only declared. -/
structure UntypedDelete where
  namespaces : Namespaces
  name : String
  id : String
  deriving DecidableEq

/-- The names of the objects, by kind. -/
structure Delete where
  domain : Option String := none
  host : Option String := none
  contact : Option String := none
  untyped : Option UntypedDelete := none
  deriving DecidableEq

namespace Delete

/-- The untyped name under every kind it declares, in place of what stood there. -/
def typed (x : Delete) : Delete :=
  match x.untyped with
  | none => x
  | some u =>
    { domain := u.namespaces.fill .domain u.name x.domain
      host := u.namespaces.fill .host u.name x.host
      contact := u.namespaces.fill .contact u.id x.contact
      untyped := none }

/-- The body for one kind. -/
def body (k : ObjectKind) (field name : String) : Element :=
  k.commandRoot "delete" [k.leaf field name]

def toElement (x : Delete) : Element :=
  .node "delete" ((x.domain.map (body .domain "name")).toList ++
    (x.host.map (body .host "name")).toList ++ (x.contact.map (body .contact "id")).toList)

/-- The first child names the object, whatever its own name. -/
def ofElement (e : Element) : Delete :=
  { untyped := e.children.head?.map fun c =>
      ⟨.ofElement c, c.childText "name", c.childText "id"⟩ }

end Delete

end Provisioning
