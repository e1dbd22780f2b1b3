import Provisioning.Calendar.Instant
import Provisioning.Message.Extension.Schemas
import Provisioning.Object.Namespaces

/-!
# The grace period of deleted domains

A deleted domain can be restored for a while: it is requested, and then reported what is restored
and why. Responses tell the grace statuses of a domain.
-/

namespace Provisioning

open Markup

/-- The step of a restoration. -/
inductive RestoreOp where
  | request
  | report
  deriving DecidableEq

def RestoreOp.label : RestoreOp → String
  | .request => "request"
  | .report => "report"

def RestoreOp.ofLabel? : String → Option RestoreOp
  | "request" => some .request
  | "report" => some .report
  | _ => none

/-- What is restored, when it was deleted and restored, and why. -/
structure RestoreReport where
  preData : String := ""
  postData : String := ""
  deletedTime : String := ""
  restoredTime : String := ""
  reason : String := ""
  statements : List String := []
  other : String := ""
  deriving DecidableEq

namespace RestoreReport

/-- The report with the time of the deletion. -/
def deletedAt (r : RestoreReport) (t : Calendar.Instant) : RestoreReport :=
  { r with deletedTime := t.text }

/-- The report with the time of the restoration. -/
def restoredAt (r : RestoreReport) (t : Calendar.Instant) : RestoreReport :=
  { r with restoredTime := t.text }

def toElement (r : RestoreReport) : Element :=
  .node "rgp:report" ([.leaf "rgp:preData" r.preData, .leaf "rgp:postData" r.postData,
    .leaf "rgp:delTime" r.deletedTime, .leaf "rgp:resTime" r.restoredTime,
    .leaf "rgp:resReason" r.reason] ++ r.statements.map (.leaf "rgp:statement") ++
    [.leaf "rgp:other" r.other])

def ofElement (e : Element) : RestoreReport :=
  { preData := e.childText "preData"
    postData := e.childText "postData"
    deletedTime := e.childText "delTime"
    restoredTime := e.childText "resTime"
    reason := e.childText "resReason"
    statements := e.childTexts "statement"
    other := e.childText "other" }

end RestoreReport

/-- A step of the restoration of a domain. -/
structure Restore where
  op : RestoreOp
  report : Option RestoreReport := none
  deriving DecidableEq

namespace Restore

def toElement (x : Restore) : Element :=
  { name := "rgp:update"
    attrs := [("xmlns:rgp", Extension.graceXmlns), ("xmlns:xsi", instanceXmlns),
      ("xsi:schemaLocation", Extension.graceSchema)]
    children := [(Element.node "rgp:restore" (x.report.map (·.toElement)).toList).withAttr "op"
      x.op.label] }

def ofElement (e : Element) : Reading Restore := do
  let restore ← e.require "restore"
  let label := (restore.attr? "op").getD ""
  match RestoreOp.ofLabel? label with
  | none => .error (.invalidValue "restore op" label)
  | some op => return ⟨op, (restore.child? "report").map RestoreReport.ofElement⟩

end Restore

/-- The grace statuses of a domain. -/
structure GraceStatus where
  statuses : List String
  deriving DecidableEq

namespace GraceStatus

def toElement (x : GraceStatus) : Element :=
  { name := "rgp:upData"
    attrs := [("xmlns:rgp", Extension.graceXmlns), ("xsi:schemaLocation", Extension.graceSchema)]
    children := x.statuses.map fun s => (Element.node "rgp:rgpStatus" []).withAttr "s" s }

def ofElement (e : Element) : GraceStatus :=
  ⟨(e.childrenNamed "rgpStatus").filterMap (·.attr? "s")⟩

end GraceStatus

end Provisioning
