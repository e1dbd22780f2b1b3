import Provisioning.Object.Period

/-!
# Transfer: an object changes its sponsor

A transfer is requested, looked at, approved, rejected or cancelled; it concerns a domain or a
contact.
-/

namespace Provisioning

open Markup

/-- The step of a transfer. -/
inductive TransferOp where
  | request
  | query
  | approve
  | reject
  | cancel
  deriving DecidableEq

namespace TransferOp

def label : TransferOp → String
  | .request => "request"
  | .query => "query"
  | .approve => "approve"
  | .reject => "reject"
  | .cancel => "cancel"

def ofLabel? : String → Option TransferOp
  | "request" => some .request
  | "query" => some .query
  | "approve" => some .approve
  | "reject" => some .reject
  | "cancel" => some .cancel
  | _ => none

end TransferOp

structure DomainTransfer where
  name : String
  period : Option Period := none
  authInfo : Option String := none
  deriving DecidableEq

structure ContactTransfer where
  id : String
  authInfo : Option String := none
  deriving DecidableEq

/-- An object to be transferred whose kinds are only declared. -/
structure UntypedTransfer where
  namespaces : Namespaces
  name : String
  id : String
  period : Option Period
  authInfo : Option String
  deriving DecidableEq

/-- A step of the transfer of a domain or a contact. -/
structure Transfer where
  op : TransferOp
  domain : Option DomainTransfer := none
  contact : Option ContactTransfer := none
  untyped : Option UntypedTransfer := none
  deriving DecidableEq

namespace UntypedTransfer

def domain (u : UntypedTransfer) : DomainTransfer := ⟨u.name, u.period, u.authInfo⟩

def contact (u : UntypedTransfer) : ContactTransfer := ⟨u.id, u.authInfo⟩

def ofElement (e : Element) : Reading UntypedTransfer := do
  let period ← Period.childOf e
  return ⟨.ofElement e, e.childText "name", e.childText "id", period, readAuthInfo e⟩

end UntypedTransfer

namespace Transfer

/-- The untyped object under each of the two kinds it declares, in place of what stood there. -/
def typed (x : Transfer) : Transfer :=
  match x.untyped with
  | none => x
  | some u =>
    { op := x.op
      domain := u.namespaces.fill .domain u.domain x.domain
      contact := u.namespaces.fill .contact u.contact x.contact
      untyped := none }

def toElement (x : Transfer) : Element :=
  let d := ObjectKind.domain
  let c := ObjectKind.contact
  (Element.node "transfer" (
    (x.domain.map fun t => d.commandRoot "transfer" ([d.leaf "name" t.name] ++
      (t.period.map (·.toElement d)).toList ++ (t.authInfo.map d.authInfo).toList)).toList ++
    (x.contact.map fun t => c.commandRoot "transfer"
      (c.leaf "id" t.id :: (t.authInfo.map c.authInfo).toList)).toList)).withAttr "op" x.op.label

/-- The first child is the object, whatever its name. -/
def ofElement (e : Element) : Reading Transfer :=
  let label := (e.attr? "op").getD ""
  match TransferOp.ofLabel? label with
  | none => .error (.invalidValue "transfer op" label)
  | some op =>
    match e.children.head? with
    | none => .ok { op }
    | some c => (UntypedTransfer.ofElement c).map fun u => { op, untyped := some u }

end Transfer

end Provisioning
