import Provisioning.Message.Check
import Provisioning.Message.Create
import Provisioning.Message.Delete
import Provisioning.Message.Extension.Overlay
import Provisioning.Message.Info
import Provisioning.Message.Login
import Provisioning.Message.Renew
import Provisioning.Message.Tag
import Provisioning.Message.Transfer
import Provisioning.Message.Update

/-!
# Commands

A command has a place for every verb, though it is meant to hold one only, an extension, and the
identifier by which the client knows its answer.
-/

namespace Provisioning

open Markup

structure Command where
  login : Option Login := none
  logout : Bool := false
  check : Option Check := none
  create : Option Create := none
  info : Option Info := none
  delete : Option Delete := none
  update : Option Update := none
  transfer : Option Transfer := none
  renew : Option Renew := none
  poll : Option Poll := none
  extension : Option CommandExtension := none
  transactionId : String
  deriving DecidableEq

/-! ## What a command is -/

def Check.kind? (x : Check) : Option ObjectKind :=
  soleKind x.domain.isSome x.host.isSome x.contact.isSome

def Create.kind? (x : Create) : Option ObjectKind :=
  soleKind x.domain.isSome x.host.isSome x.contact.isSome

def Delete.kind? (x : Delete) : Option ObjectKind :=
  soleKind x.domain.isSome x.host.isSome x.contact.isSome

def Info.kind? (x : Info) : Option ObjectKind :=
  soleKind x.domain.isSome x.host.isSome x.contact.isSome

def Update.kind? (x : Update) : Option ObjectKind :=
  soleKind x.domain.isSome x.host.isSome x.contact.isSome

/-- Domains only are renewed. -/
def Renew.kind? (x : Renew) : Option ObjectKind := x.domain.map fun _ => .domain

/-- The only object that is transferred, and the step. -/
def Transfer.step? (x : Transfer) : Option (ObjectKind × TransferOp) :=
  soleOr none [x.domain.map fun _ => some (.domain, x.op),
    x.contact.map fun _ => some (.contact, x.op)]

/-- The tag of the only verb of a command. -/
def Command.tag (c : Command) : CommandTag :=
  soleOr .unclassified [
    c.login.map fun _ => .login,
    c.check.map fun x => .check x.kind?,
    c.create.map fun x => .create x.kind?,
    c.info.map fun x => .info x.kind?,
    c.delete.map fun x => .delete x.kind?,
    c.update.map fun x => .update x.kind?,
    c.transfer.map fun x => .transfer x.step?,
    c.renew.map fun x => .renew x.kind?,
    if c.logout then some .logout else none,
    c.poll.map fun _ => .poll]

/-! ## Reading and writing -/

/-- The named child, read if it is there. -/
def readChild {α : Type} (read : Element → Reading α) (e : Element) (name : String) :
    Reading (Option α) :=
  match e.child? name with
  | none => .ok none
  | some c => (read c).map some

namespace Command

/-- Every part under the kinds it declares. -/
def typed (c : Command) : Command :=
  { c with
    check := c.check.map (·.typed)
    create := c.create.map (·.typed)
    info := c.info.map (·.typed)
    delete := c.delete.map (·.typed)
    update := c.update.map (·.typed)
    transfer := c.transfer.map (·.typed)
    renew := c.renew.map (·.typed)
    extension := c.extension.map (·.typed) }

def toElement (c : Command) : Element :=
  (Element.node "command" (
    (c.login.map (·.toElement)).toList ++ (if c.logout then [.node "logout" []] else []) ++
    (c.check.map (·.toElement)).toList ++ (c.create.map (·.toElement)).toList ++
    (c.info.map (·.toElement)).toList ++ (c.delete.map (·.toElement)).toList ++
    (c.update.map (·.toElement)).toList ++ (c.transfer.map (·.toElement)).toList ++
    (c.renew.map (·.toElement)).toList ++ (c.poll.map (·.toElement)).toList ++
    (c.extension.map (·.toElement)).toList ++
    [.leaf "clTRID" c.transactionId])).withAttr "xmlns" messageXmlns

/-- The parts are read in a fixed order; the first that cannot be read is the fault. -/
def ofElement (e : Element) : Reading Command := do
  let create ← readChild Create.ofElement e "create"
  let transfer ← readChild Transfer.ofElement e "transfer"
  let renew ← readChild Renew.ofElement e "renew"
  let poll ← readChild Poll.ofElement e "poll"
  return {
    login := (e.child? "login").map Login.ofElement
    logout := e.hasChild "logout"
    check := (e.child? "check").map Check.ofElement
    create
    info := (e.child? "info").map Info.ofElement
    delete := (e.child? "delete").map Delete.ofElement
    update := (e.child? "update").map Update.ofElement
    transfer
    renew
    poll
    extension := (e.child? "extension").map CommandExtension.ofElement
    transactionId := e.childText "clTRID" }

/-- The command about the product of the name, by the first label that the name ends in; without
such a label the command stays as it is. -/
def withPolicy (c : Command) (policy : NamestorePolicy) (name : String) : Command :=
  match policy.product? name with
  | none => c
  | some product => { c with extension := some { namestore := some ⟨[product]⟩ } }

end Command

end Provisioning
