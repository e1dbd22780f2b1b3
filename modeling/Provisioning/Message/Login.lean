import Provisioning.Message.Greeting

/-!
# Logging in and polling

The commands that are about the session and its messages rather than about objects.
-/

namespace Provisioning

open Markup

/-- Who logs in, with which password, and the services asked for. -/
structure Login where
  clientId : String
  password : String
  newPassword : Option String := none
  version : String := ServiceMenu.protocolVersion
  language : String := ServiceMenu.defaultLanguage
  objectUris : List String
  extensionUris : List String
  deriving DecidableEq

namespace Login

/-- A login that asks for all services of a menu. -/
def ofMenu (clientId password : String) (menu : ServiceMenu) : Login :=
  { clientId, password, objectUris := menu.objectUris, extensionUris := menu.extensionUris }

def toElement (x : Login) : Element :=
  .node "login" ([.leaf "clID" x.clientId, .leaf "pw" x.password] ++
    (x.newPassword.map (.leaf "newPW")).toList ++
    [.node "options" [.leaf "version" x.version, .leaf "lang" x.language],
      .node "svcs" (ServiceMenu.serviceElements x.objectUris x.extensionUris)])

def ofElement (e : Element) : Login :=
  let options := e.child? "options"
  let services := e.child? "svcs"
  { clientId := e.childText "clID"
    password := e.childText "pw"
    newPassword := e.filledChildText? "newPW"
    version := (options.map (·.childText "version")).getD ""
    language := (options.map (·.childText "lang")).getD ""
    objectUris := (services.map (·.childTexts "objURI")).getD []
    extensionUris := (services.map ServiceMenu.readExtensions).getD [] }

end Login

/-- Whether a poll asks for a message or acknowledges one. -/
inductive PollOp where
  | request
  | acknowledge
  deriving DecidableEq

def PollOp.label : PollOp → String
  | .request => "req"
  | .acknowledge => "ack"

def PollOp.ofLabel? : String → Option PollOp
  | "req" => some .request
  | "ack" => some .acknowledge
  | _ => none

/-- A look into the queue of messages. -/
structure Poll where
  op : PollOp
  messageId : Option String := none
  deriving DecidableEq

namespace Poll

def toElement (x : Poll) : Element :=
  ((Element.node "poll" []).withAttr? "msgID" x.messageId).withAttr "op" x.op.label

def ofElement (e : Element) : Reading Poll :=
  let label := (e.attr? "op").getD ""
  match PollOp.ofLabel? label with
  | none => .error (.invalidValue "poll op" label)
  | some op => .ok ⟨op, e.filledAttr? "msgID"⟩

end Poll

end Provisioning
