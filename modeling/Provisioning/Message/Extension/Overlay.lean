import Provisioning.Message.Extension.Grace
import Provisioning.Message.Extension.Jobs
import Provisioning.Message.Extension.Launch
import Provisioning.Message.Extension.Namestore
import Provisioning.Message.Extension.SecDns
import Provisioning.Message.Extension.Sync

/-!
# Extensions of commands and responses

An extension is read as the row of its elements. Typing it sorts the known ones into slots, by local
name and, since several extensions share one, by the namespace that the element declares; where an
element declares several, the slots have an order. A later element takes its slot from an earlier
one, also when it cannot be read, and then leaves it empty. What selects no slot is dropped.
-/

namespace Provisioning

open Markup

/-- Whether an element declares a namespace under the given prefix. -/
def Markup.Element.declares (e : Element) (label : String) : Bool := (e.filledAttr? label).isSome

/-! ## Commands -/

/-- What extends a command. -/
structure CommandExtension where
  namestore : Option Namestore := none
  sync : Option Sync := none
  restore : Option Restore := none
  secDns : Option SecDnsUpdate := none
  untyped : List Element := []
  deriving DecidableEq

namespace CommandExtension

/-- The slots of a command's extension. -/
inductive Slot where
  | namestore
  | sync
  | restore
  | secDns
  deriving DecidableEq

/-- The slot that an element selects. -/
def Slot.of? (e : Element) : Option Slot :=
  match e.localName with
  | "namestoreExt" => some .namestore
  | "update" =>
    if e.declares "sync" then some .sync
    else if e.declares "rgp" then some .restore
    else if e.declares "secDNS" then some .secDns
    else none
  | _ => none

/-- Reads an element into its slot. -/
def put (x : CommandExtension) (e : Element) : CommandExtension :=
  match Slot.of? e with
  | some .namestore => { x with namestore := some (.ofElement e) }
  | some .sync => { x with sync := (Sync.ofElement e).toOption }
  | some .restore => { x with restore := (Restore.ofElement e).toOption }
  | some .secDns => { x with secDns := (SecDnsUpdate.ofElement e).toOption }
  | none => x

/-- Every element in its slot. -/
def typed (x : CommandExtension) : CommandExtension :=
  x.untyped.foldl put { x with untyped := [] }

/-- Nothing is extended. -/
def isEmpty (x : CommandExtension) : Bool :=
  x.namestore.isNone && x.sync.isNone && x.restore.isNone && x.secDns.isNone && x.untyped.isEmpty

def toElement (x : CommandExtension) : Element :=
  .node "extension" ((x.namestore.map (·.toElement)).toList ++ (x.sync.map (·.toElement)).toList ++
    (x.restore.map (·.toElement)).toList ++ (x.secDns.map (·.toElement)).toList ++ x.untyped)

def ofElement (e : Element) : CommandExtension := { untyped := e.children }

end CommandExtension

/-! ## Responses -/

/-- What extends a response. -/
structure ResponseExtension where
  launch : Option LaunchCheck := none
  namestore : Option Namestore := none
  secDns : Option SecDnsInfo := none
  grace : Option GraceStatus := none
  jobs : Option JobsContact := none
  untyped : List Element := []
  deriving DecidableEq

namespace ResponseExtension

/-- The slots of a response's extension. -/
inductive Slot where
  | launch
  | namestore
  | secDns
  | grace
  | jobs
  deriving DecidableEq

/-- The slot that an element selects. -/
def Slot.of? (e : Element) : Option Slot :=
  match e.localName with
  | "chkData" => if e.declares "launch" then some .launch else none
  | "namestoreExt" => some .namestore
  | "infData" =>
    if e.declares "secDNS" then some .secDns
    else if e.declares "jobsContact" then some .jobs
    else none
  | "upData" => if e.declares "rgp" then some .grace else none
  | _ => none

/-- Reads an element into its slot. -/
def put (x : ResponseExtension) (e : Element) : ResponseExtension :=
  match Slot.of? e with
  | some .launch => { x with launch := some (.ofElement e) }
  | some .namestore => { x with namestore := some (.ofElement e) }
  | some .secDns => { x with secDns := (SecDnsInfo.ofElement e).toOption }
  | some .grace => { x with grace := some (.ofElement e) }
  | some .jobs => { x with jobs := some (.ofElement e) }
  | none => x

/-- Every element in its slot. -/
def typed (x : ResponseExtension) : ResponseExtension :=
  x.untyped.foldl put { x with untyped := [] }

def toElement (x : ResponseExtension) : Element :=
  .node "extension" ((x.launch.map (·.toElement)).toList ++
    (x.namestore.map (·.toElement)).toList ++ (x.secDns.map (·.toElement)).toList ++
    (x.grace.map (·.toElement)).toList ++ (x.jobs.map (·.toElement)).toList ++ x.untyped)

def ofElement (e : Element) : ResponseExtension := { untyped := e.children }

end ResponseExtension

end Provisioning
