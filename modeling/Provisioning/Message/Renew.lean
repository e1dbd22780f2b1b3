import Provisioning.Object.Period

/-!
# Renew: a domain's registration goes on

A renewal tells the day on which the registration ends now, so that it cannot be applied twice.
-/

namespace Provisioning

open Markup

structure DomainRenew where
  name : String
  currentExpiry : String
  period : Period
  deriving DecidableEq

/-- A renewal whose kinds are only declared. -/
structure UntypedRenew where
  namespaces : Namespaces
  name : String
  currentExpiry : String
  period : Option Period
  deriving DecidableEq

/-- A renewal; domains only can be renewed. -/
structure Renew where
  domain : Option DomainRenew := none
  untyped : Option UntypedRenew := none
  deriving DecidableEq

namespace UntypedRenew

def domain (u : UntypedRenew) : DomainRenew :=
  ⟨u.name, u.currentExpiry, u.period.getD Period.default⟩

def ofElement (e : Element) : Reading UntypedRenew := do
  let period ← Period.childOf e
  return ⟨.ofElement e, e.childText "name", e.childText "curExpDate", period⟩

end UntypedRenew

namespace Renew

/-- The untyped renewal as one of a domain, if it declares that kind. -/
def typed (x : Renew) : Renew :=
  match x.untyped with
  | none => x
  | some u => ⟨u.namespaces.fill .domain u.domain x.domain, none⟩

def toElement (x : Renew) : Element :=
  let d := ObjectKind.domain
  .node "renew" (x.domain.map fun r => d.commandRoot "renew"
    [d.leaf "name" r.name, d.leaf "curExpDate" r.currentExpiry, r.period.toElement d]).toList

/-- The first child is the renewal, whatever its name. -/
def ofElement (e : Element) : Reading Renew :=
  match e.children.head? with
  | none => .ok {}
  | some c => (UntypedRenew.ofElement c).map fun u => { untyped := some u }

end Renew

end Provisioning
