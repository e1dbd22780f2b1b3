import Provisioning.Message.Extension.Overlay
import Provisioning.Message.ResultCode
import Provisioning.Message.ResultData
import Provisioning.Message.Tag

/-!
# Responses

A response carries a result, the state of the message queue, data about objects, an extension, and
the identifiers of the two sides.
-/

namespace Provisioning

open Markup

/-- The messages that wait for a client. -/
structure MessageQueue where
  count : UInt64
  id : String
  queued : Option String := none
  message : Option String := none
  deriving DecidableEq

structure Response where
  code : UInt16
  message : String
  queue : Option MessageQueue := none
  data : Option ResultData := none
  extension : Option ResponseExtension := none
  clientTransactionId : String
  serverTransactionId : String
  deriving DecidableEq

namespace ResultData

/-- What the data is about: the only slot that is filled. -/
def tag (d : ResultData) : ResponseTag :=
  let slot {α : Type} (value : Option α) (tag : ResponseTag) : Option ResponseTag :=
    value.map fun _ => tag
  soleOr .unclassified [
    slot d.domainCheck (.check .domain), slot d.domainCreate (.create .domain),
    slot d.domainInfo (.info .domain), slot d.domainRenew (.renew .domain),
    slot d.domainTransfer (.transfer .domain), slot d.hostCheck (.check .host),
    slot d.hostCreate (.create .host), slot d.hostInfo (.info .host),
    slot d.contactCheck (.check .contact), slot d.contactCreate (.create .contact),
    slot d.contactInfo (.info .contact), slot d.contactTransfer (.transfer .contact)]

end ResultData

namespace MessageQueue

def toElement (q : MessageQueue) : Element :=
  { name := "msgQ"
    attrs := [("count", toString q.count.toNat), ("id", q.id)]
    children := (q.queued.map (.leaf "qDate")).toList ++ (q.message.map (.leaf "msg")).toList }

/-- A queue without a count holds no message. -/
def ofElement (e : Element) : Reading MessageQueue := do
  let count ← readNumber .u64 "msgQ count" ((e.attr? "count").getD "0")
  return { count := UInt64.ofNat count.toNat
           id := (e.attr? "id").getD ""
           queued := e.filledChildText? "qDate"
           message := e.filledChildText? "msg" }

end MessageQueue

namespace Response

/-- The response that says what a code says. -/
def ofCode (code : ResultCode) (clientTransactionId serverTransactionId : String) : Response :=
  { code := code.code, message := code.message, clientTransactionId, serverTransactionId }

/-- A response with data. -/
def withData (r : Response) (d : ResultData) : Response := { r with data := some d }

def isError (r : Response) : Bool := isErrorCode r.code

/-- The session ends with the response. -/
def isFatal (r : Response) : Bool := isFatalCode r.code

/-- The response as a fault, if it has the code of an error. -/
def fault? (r : Response) : Option Fault :=
  if r.isError then some (.rejected r.code r.message) else none

def tag (r : Response) : ResponseTag := (r.data.map (·.tag)).getD .unclassified

/-- Every part in the slots of the kinds that it declares. -/
def typed (r : Response) : Response :=
  { r with data := r.data.map (·.typed), extension := r.extension.map (·.typed) }

def toElement (r : Response) : Element :=
  .node "response" (
    [{ name := "result"
       attrs := [("code", toString r.code.toNat)]
       children := [.leaf "msg" r.message] }] ++
    (r.queue.map (·.toElement)).toList ++ (r.data.map (·.toElement)).toList ++
    (r.extension.map (·.toElement)).toList ++
    [.node "trID" [.leaf "clTRID" r.clientTransactionId, .leaf "svTRID" r.serverTransactionId]])

def ofElement (e : Element) : Reading Response := do
  let result ← e.require "result"
  let code ← readNumber .u16 "result code" ((result.attr? "code").getD "")
  let queue ← match e.child? "msgQ" with
    | none => pure none
    | some q => (MessageQueue.ofElement q).map some
  let transaction := e.child? "trID"
  return { code := UInt16.ofNat code.toNat
           message := result.childText "msg"
           queue
           data := (e.child? "resData").map ResultData.ofElement
           extension := (e.child? "extension").map ResponseExtension.ofElement
           clientTransactionId := (transaction.map (·.childText "clTRID")).getD ""
           serverTransactionId := (transaction.map (·.childText "svTRID")).getD "" }

end Response

end Provisioning
