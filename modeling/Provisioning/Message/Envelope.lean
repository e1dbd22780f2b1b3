import Provisioning.Markup.Printer
import Provisioning.Markup.Tree
import Provisioning.Message.Command
import Provisioning.Message.Response

/-!
# Envelopes

The root of every message. It is meant to hold one command, greeting, hello or response; what it
holds decides its tag.
-/

namespace Provisioning

open Markup

structure Envelope where
  xsi : String := instanceXmlns
  schema : String := messageSchema
  command : Option Command := none
  greeting : Option Greeting := none
  hello : Option Hello := none
  response : Option Response := none
  deriving DecidableEq

namespace Envelope

def ofCommand (c : Command) : Envelope := { command := some c }

def ofGreeting (g : Greeting) : Envelope := { greeting := some g }

def ofResponse (r : Response) : Envelope := { response := some r }

/-- The message that asks for a greeting. -/
def askGreeting : Envelope := { hello := some {} }

/-- What the message is: the tag of its only part. -/
def tag (e : Envelope) : Tag :=
  soleOr .unclassified [
    e.command.map fun c => .command c.tag,
    e.greeting.map fun _ => .greeting,
    e.hello.map fun _ => .hello,
    e.response.map fun r => .response r.tag]

/-- Every part in the slots of the kinds that it declares. -/
def typed (e : Envelope) : Envelope :=
  { e with command := e.command.map (·.typed), response := e.response.map (·.typed) }

/-- The client's identifier of the command or response; the command's counts first. -/
def transactionId (e : Envelope) : Reading String :=
  match e.command, e.response with
  | some c, _ => .ok c.transactionId
  | none, some r => .ok r.clientTransactionId
  | none, none => .error .noTransactionId

/-- The server's identifier of the response. -/
def serverTransactionId (e : Envelope) : Reading String :=
  match e.response with
  | some r => .ok r.serverTransactionId
  | none => .error .noServerTransactionId

def toElement (e : Envelope) : Element :=
  let filled (s : String) : Option String := if s = "" then none else some s
  ((Element.node "epp" (
    (e.greeting.map (·.toElement)).toList ++ (e.hello.map (·.toElement)).toList ++
    (e.command.map (·.toElement)).toList ++ (e.response.map (·.toElement)).toList)).withAttr?
      "xmlns:xsi" (filled e.xsi)).withAttr? "xsi:schemaLocation" (filled e.schema)

/-- The document of a message, without a declaration. -/
def toText (e : Envelope) : String := e.toElement.toText

/-- The command is read before the response, so that its fault counts first. -/
def ofElement (e : Element) : Reading Envelope := do
  let command ← readChild Command.ofElement e "command"
  let response ← readChild Response.ofElement e "response"
  return { xsi := (e.attr? "xsi").getD ""
           schema := (e.attr? "schemaLocation").getD ""
           command
           greeting := (e.child? "greeting").map Greeting.ofElement
           hello := (e.child? "hello").map Hello.ofElement
           response }

/-- The message of a document. -/
def ofText (s : String) : Reading Envelope := do
  let root ← Element.ofText s
  if root.localName = "epp" then ofElement root else .error (.unexpectedRoot root.name)

/-- The message of an encoded document. -/
def ofBytes (bytes : List UInt8) : Reading Envelope :=
  match Text.Utf8.decode bytes with
  | .ok s => ofText s
  | .error fault => .error (.encoding fault)

end Envelope

end Provisioning
