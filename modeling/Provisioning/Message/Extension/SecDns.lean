import Provisioning.Message.Extension.Schemas
import Provisioning.Object.Namespaces

/-!
# Signed delegations

The records that sign the delegation of a domain, and their changes.
-/

namespace Provisioning

open Markup

/-- A delegation signer record. -/
structure DsRecord where
  keyTag : UInt16
  algorithm : UInt8
  digestType : UInt8
  digest : String
  deriving DecidableEq

namespace DsRecord

def toElement (x : DsRecord) : Element :=
  .node "secDNS:dsData" [.leaf "secDNS:keyTag" (toString x.keyTag.toNat),
    .leaf "secDNS:alg" (toString x.algorithm.toNat),
    .leaf "secDNS:digestType" (toString x.digestType.toNat), .leaf "secDNS:digest" x.digest]

def ofElement (e : Element) : Reading DsRecord := do
  let keyTag ← readNumber .u16 "keyTag" (e.childText "keyTag")
  let algorithm ← readNumber .u8 "alg" (e.childText "alg")
  let digestType ← readNumber .u8 "digestType" (e.childText "digestType")
  return ⟨UInt16.ofNat keyTag.toNat, UInt8.ofNat algorithm.toNat, UInt8.ofNat digestType.toNat,
    e.childText "digest"⟩

/-- The records among the children of an element. -/
def childrenOf (e : Element) : Reading (List DsRecord) :=
  (e.childrenNamed "dsData").mapM ofElement

/-- The records in the named child of an element; none when there is no such child. -/
def inChild (e : Element) (name : String) : Reading (List DsRecord) :=
  match e.child? name with
  | none => .ok []
  | some s => childrenOf s

end DsRecord

/-- Records that are removed and added. -/
structure SecDnsUpdate where
  remove : List DsRecord
  add : List DsRecord
  deriving DecidableEq

namespace SecDnsUpdate

/-- A section is written only when it holds records. -/
def toElement (x : SecDnsUpdate) : Element :=
  let part (name : String) (records : List DsRecord) : List Element :=
    if records.isEmpty then [] else [.node name (records.map (·.toElement))]
  { name := "secDNS:update"
    attrs := [("xmlns:secDNS", Extension.secDnsXmlns), ("xmlns:xsi", instanceXmlns),
      ("xsi:schemaLocation", Extension.secDnsSchema)]
    children := part "secDNS:rem" x.remove ++ part "secDNS:add" x.add }

def ofElement (e : Element) : Reading SecDnsUpdate := do
  let remove ← DsRecord.inChild e "rem"
  let add ← DsRecord.inChild e "add"
  return ⟨remove, add⟩

end SecDnsUpdate

/-- The records of a domain. -/
structure SecDnsInfo where
  records : List DsRecord
  deriving DecidableEq

namespace SecDnsInfo

def toElement (x : SecDnsInfo) : Element :=
  { name := "secDNS:infData"
    attrs := [("xmlns:secDNS", Extension.secDnsXmlns),
      ("xsi:schemaLocation", Extension.secDnsSchema)]
    children := x.records.map (·.toElement) }

def ofElement (e : Element) : Reading SecDnsInfo := (DsRecord.childrenOf e).map SecDnsInfo.mk

end SecDnsInfo

end Provisioning
