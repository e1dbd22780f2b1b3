import Provisioning.Message.ResultData
import Provisioning.Proofs.Message.QueryDelivery

/-!
# How result data arrives

Data is written per kind and read per verb: of the elements that say what was checked, created,
known, renewed or transferred, the first one is read, and given to the kind it declares. So data
arrives whole when it has one kind at most for every verb, and the verbs do not matter to each other
(`typed_slots`).
-/

namespace Provisioning

open Markup Markup.Element

/-! ## What was checked -/

namespace CheckItem

def delivered (x : CheckItem) : CheckItem :=
  ⟨trimText x.value, x.available, filledText x.reason⟩

structure Canonical (x : CheckItem) : Prop where
  value : IsTidy x.value
  reason : IsTidyFilled x.reason

theorem Canonical.delivered_eq {x : CheckItem} (h : x.Canonical) : x.delivered = x := by
  rw [delivered, trimText_of_isTidy h.value, filledText_of_isTidyFilled h.reason]

variable (x : CheckItem) (k : ObjectKind)

@[simp] theorem localName_toElement : (x.toElement k).localName = "cd" := by
  simp [toElement]

@[simp] theorem wellNamed_toElement : (x.toElement k).WellNamed := by
  have hkey : isName (if k = .contact then "id" else "name") = true := by
    split <;> decide
  have hvalue := wellNamed_withAttr (ObjectKind.wellNamed_leaf k hkey x.value)
    (by decide : isName "avail" = true) (by simp) (flagText x.available)
  simp +decide [toElement, or_imp, forall_and, hvalue]

@[simp] theorem ofElement_toElement :
    (UntypedCheckItem.ofElement (x.toElement k).trimmed).item k = x.delivered := by
  cases k <;>
    simp [UntypedCheckItem.ofElement, UntypedCheckItem.item, toElement, delivered, filledText,
      Function.comp_def]

end CheckItem

section Checked

variable (k : ObjectKind) (items : List CheckItem)

@[simp] theorem localName_checkedElement : (checkedElement k items).localName = "chkData" := by
  simp [checkedElement]

@[simp] theorem wellNamed_checkedElement : (checkedElement k items).WellNamed := by
  simp +decide [checkedElement]

@[simp] theorem namespaces_checkedElement :
    (UntypedChecked.ofElement (checkedElement k items).trimmed).namespaces =
      .ofResponse k k.schema := by
  simp [UntypedChecked.ofElement, checkedElement]

@[simp] theorem itemsOf_checkedElement :
    (UntypedChecked.ofElement (checkedElement k items).trimmed).itemsOf k =
      items.map (·.delivered) := by
  simp [UntypedChecked.ofElement, UntypedChecked.itemsOf, checkedElement, Function.comp_def]

end Checked

/-! ## What was created -/

namespace DomainCreated

def delivered (x : DomainCreated) : DomainCreated :=
  { x with name := trimText x.name, created := trimText x.created, expires := trimText x.expires }

structure Canonical (x : DomainCreated) : Prop where
  name : IsTidy x.name
  created : IsTidy x.created
  expires : IsTidy x.expires

theorem Canonical.delivered_eq {x : DomainCreated} (h : x.Canonical) : x.delivered = x := by
  rw [delivered, trimText_of_isTidy h.name, trimText_of_isTidy h.created,
    trimText_of_isTidy h.expires]

@[simp] theorem localName_toElement (x : DomainCreated) : x.toElement.localName = "creData" := by
  simp [toElement]

@[simp] theorem wellNamed_toElement (x : DomainCreated) : x.toElement.WellNamed := by
  simp +decide [toElement]

@[simp] theorem ofElement_toElement (x : DomainCreated) :
    UntypedCreated.ofElement x.toElement.trimmed =
      ⟨.ofResponse .domain x.schema, trimText x.name, "", trimText x.created, trimText x.expires⟩ := by
  simp [UntypedCreated.ofElement, toElement]

end DomainCreated

namespace HostCreated

def delivered (x : HostCreated) : HostCreated :=
  { x with name := trimText x.name, created := trimText x.created }

structure Canonical (x : HostCreated) : Prop where
  name : IsTidy x.name
  created : IsTidy x.created

theorem Canonical.delivered_eq {x : HostCreated} (h : x.Canonical) : x.delivered = x := by
  rw [delivered, trimText_of_isTidy h.name, trimText_of_isTidy h.created]

@[simp] theorem localName_toElement (x : HostCreated) : x.toElement.localName = "creData" := by
  simp [toElement]

@[simp] theorem wellNamed_toElement (x : HostCreated) : x.toElement.WellNamed := by
  simp +decide [toElement]

@[simp] theorem ofElement_toElement (x : HostCreated) :
    UntypedCreated.ofElement x.toElement.trimmed =
      ⟨.ofResponse .host x.schema, trimText x.name, "", trimText x.created, ""⟩ := by
  simp [UntypedCreated.ofElement, toElement]

end HostCreated

namespace ContactCreated

def delivered (x : ContactCreated) : ContactCreated :=
  { x with id := trimText x.id, created := trimText x.created }

structure Canonical (x : ContactCreated) : Prop where
  id : IsTidy x.id
  created : IsTidy x.created

theorem Canonical.delivered_eq {x : ContactCreated} (h : x.Canonical) : x.delivered = x := by
  rw [delivered, trimText_of_isTidy h.id, trimText_of_isTidy h.created]

@[simp] theorem localName_toElement (x : ContactCreated) : x.toElement.localName = "creData" := by
  simp [toElement]

@[simp] theorem wellNamed_toElement (x : ContactCreated) : x.toElement.WellNamed := by
  simp +decide [toElement]

@[simp] theorem ofElement_toElement (x : ContactCreated) :
    UntypedCreated.ofElement x.toElement.trimmed =
      ⟨.ofResponse .contact x.schema, "", trimText x.id, trimText x.created, ""⟩ := by
  simp [UntypedCreated.ofElement, toElement]

end ContactCreated

/-! ## What is known -/

/-- Of what is known, an empty password is taken for none. -/
theorem password_written (k : ObjectKind) (password : Option String) :
    ((password.map fun p => (k.authInfo p).trimmed).bind fun e =>
      filled ((named "pw" e.children).head?.map (·.text))) = filled (password.map trimText) := by
  cases password with
  | none => rfl
  | some p => simp

/-- Data that a response declares for one kind describes nothing of another. -/
theorem describing_other {x : UntypedData} {j k : ObjectKind} {schema : String} {α : Type}
    (h : x.namespaces = .ofResponse k schema) (hne : j ≠ k) (value : α) :
    x.describing j value = .error (.notKind j) := by
  simp [UntypedData.describing, h, Namespaces.has_ofResponse, hne]

/-- Data of one kind describes that kind. -/
theorem describing_self {x : UntypedData} {k : ObjectKind} {schema : String} {α : Type}
    (h : x.namespaces = .ofResponse k schema) (value : α) : x.describing k value = .ok value := by
  simp [UntypedData.describing, h, Namespaces.has_ofResponse]

namespace DomainData

def delivered (x : DomainData) : DomainData :=
  { schema := x.schema
    name := trimText x.name
    roid := trimText x.roid
    statuses := x.statuses
    registrant := trimText x.registrant
    contacts := x.contacts.map (·.delivered)
    nameservers := x.nameservers.map trimText
    hosts := x.hosts.map trimText
    clientId := trimText x.clientId
    creatorId := trimText x.creatorId
    created := trimText x.created
    updaterId := filledText x.updaterId
    updated := filledText x.updated
    expires := trimText x.expires
    transferred := filledText x.transferred
    authInfo := filledText x.authInfo }

structure Canonical (x : DomainData) : Prop where
  name : IsTidy x.name
  roid : IsTidy x.roid
  registrant : IsTidy x.registrant
  contacts : ∀ c ∈ x.contacts, IsTidy c.id
  nameservers : AreTidy x.nameservers
  hosts : AreTidy x.hosts
  clientId : IsTidy x.clientId
  creatorId : IsTidy x.creatorId
  created : IsTidy x.created
  updaterId : IsTidyFilled x.updaterId
  updated : IsTidyFilled x.updated
  expires : IsTidy x.expires
  transferred : IsTidyFilled x.transferred
  authInfo : IsTidyFilled x.authInfo

theorem Canonical.delivered_eq {x : DomainData} (h : x.Canonical) : x.delivered = x := by
  rw [delivered, trimText_of_isTidy h.name, trimText_of_isTidy h.roid,
    trimText_of_isTidy h.registrant,
    listMap_self fun c hc => DomainContact.delivered_of_isTidy (h.contacts c hc),
    map_trimText h.nameservers, map_trimText h.hosts, trimText_of_isTidy h.clientId,
    trimText_of_isTidy h.creatorId, trimText_of_isTidy h.created,
    filledText_of_isTidyFilled h.updaterId, filledText_of_isTidyFilled h.updated,
    trimText_of_isTidy h.expires, filledText_of_isTidyFilled h.transferred,
    filledText_of_isTidyFilled h.authInfo]

@[simp] theorem localName_toElement (x : DomainData) : x.toElement.localName = "infData" := by
  simp [toElement]

@[simp] theorem wellNamed_toElement (x : DomainData) : x.toElement.WellNamed := by
  simp +decide [toElement, ObjectKind.statuses, or_imp, forall_and]

@[simp] theorem namespaces_toElement (x : DomainData) :
    (UntypedData.ofElement x.toElement.trimmed).namespaces = .ofResponse .domain x.schema := by
  simp [UntypedData.ofElement, toElement]

@[simp] theorem domain_toElement (x : DomainData) :
    (UntypedData.ofElement x.toElement.trimmed).domain = .ok x.delivered := by
  rw [UntypedData.domain, describing_self x.namespaces_toElement]
  simp [UntypedData.ofElement, toElement, ObjectKind.statuses, readStatuses, readNameservers,
    UntypedContact.childrenOf, delivered, filledText, password_written, Function.comp_def]

@[simp] theorem host_toElement (x : DomainData) :
    (UntypedData.ofElement x.toElement.trimmed).host = .error (.notKind .host) :=
  describing_other x.namespaces_toElement (by decide) _

@[simp] theorem contact_toElement (x : DomainData) :
    (UntypedData.ofElement x.toElement.trimmed).contact = .error (.notKind .contact) :=
  describing_other x.namespaces_toElement (by decide) _

end DomainData

namespace HostData

def delivered (x : HostData) : HostData :=
  { schema := x.schema
    name := trimText x.name
    roid := trimText x.roid
    statuses := x.statuses
    addresses := x.addresses.map (·.delivered)
    clientId := trimText x.clientId
    creatorId := trimText x.creatorId
    created := trimText x.created
    updaterId := filledText x.updaterId
    updated := filledText x.updated
    transferred := filledText x.transferred }

structure Canonical (x : HostData) : Prop where
  name : IsTidy x.name
  roid : IsTidy x.roid
  addresses : ∀ a ∈ x.addresses, IsTidy a.address
  clientId : IsTidy x.clientId
  creatorId : IsTidy x.creatorId
  created : IsTidy x.created
  updaterId : IsTidyFilled x.updaterId
  updated : IsTidyFilled x.updated
  transferred : IsTidyFilled x.transferred

theorem Canonical.delivered_eq {x : HostData} (h : x.Canonical) : x.delivered = x := by
  rw [delivered, trimText_of_isTidy h.name, trimText_of_isTidy h.roid,
    listMap_self fun a ha => HostAddress.delivered_of_isTidy (h.addresses a ha),
    trimText_of_isTidy h.clientId, trimText_of_isTidy h.creatorId, trimText_of_isTidy h.created,
    filledText_of_isTidyFilled h.updaterId, filledText_of_isTidyFilled h.updated,
    filledText_of_isTidyFilled h.transferred]

@[simp] theorem localName_toElement (x : HostData) : x.toElement.localName = "infData" := by
  simp [toElement]

@[simp] theorem wellNamed_toElement (x : HostData) : x.toElement.WellNamed := by
  simp +decide [toElement, ObjectKind.statuses, or_imp, forall_and]

@[simp] theorem namespaces_toElement (x : HostData) :
    (UntypedData.ofElement x.toElement.trimmed).namespaces = .ofResponse .host x.schema := by
  simp [UntypedData.ofElement, toElement]

@[simp] theorem host_toElement (x : HostData) :
    (UntypedData.ofElement x.toElement.trimmed).host = .ok x.delivered := by
  rw [UntypedData.host, describing_self x.namespaces_toElement]
  simp [UntypedData.ofElement, toElement, ObjectKind.statuses, readStatuses,
    UntypedAddress.childrenOf, delivered, filledText, Function.comp_def]

@[simp] theorem domain_toElement (x : HostData) :
    (UntypedData.ofElement x.toElement.trimmed).domain = .error (.notKind .domain) :=
  describing_other x.namespaces_toElement (by decide) _

@[simp] theorem contact_toElement (x : HostData) :
    (UntypedData.ofElement x.toElement.trimmed).contact = .error (.notKind .contact) :=
  describing_other x.namespaces_toElement (by decide) _

end HostData

namespace ContactData

def delivered (x : ContactData) : ContactData :=
  { schema := x.schema
    id := trimText x.id
    roid := trimText x.roid
    statuses := x.statuses
    postalInfo := x.postalInfo.map (·.delivered)
    voice := x.voice.delivered
    fax := x.fax.delivered
    email := trimText x.email
    clientId := trimText x.clientId
    creatorId := trimText x.creatorId
    created := trimText x.created
    updaterId := filledText x.updaterId
    updated := filledText x.updated
    transferred := filledText x.transferred
    authInfo := filledText x.authInfo
    disclose := x.disclose }

structure Canonical (x : ContactData) : Prop where
  id : IsTidy x.id
  roid : IsTidy x.roid
  postalInfo : ∀ p ∈ x.postalInfo, p.Canonical
  voice : x.voice.Canonical
  fax : x.fax.Canonical
  email : IsTidy x.email
  clientId : IsTidy x.clientId
  creatorId : IsTidy x.creatorId
  created : IsTidy x.created
  updaterId : IsTidyFilled x.updaterId
  updated : IsTidyFilled x.updated
  transferred : IsTidyFilled x.transferred
  authInfo : IsTidyFilled x.authInfo

theorem Canonical.delivered_eq {x : ContactData} (h : x.Canonical) : x.delivered = x := by
  rw [delivered, trimText_of_isTidy h.id, trimText_of_isTidy h.roid,
    listMap_self fun p hp => (h.postalInfo p hp).delivered_eq, h.voice.delivered_eq,
    h.fax.delivered_eq, trimText_of_isTidy h.email, trimText_of_isTidy h.clientId,
    trimText_of_isTidy h.creatorId, trimText_of_isTidy h.created,
    filledText_of_isTidyFilled h.updaterId, filledText_of_isTidyFilled h.updated,
    filledText_of_isTidyFilled h.transferred, filledText_of_isTidyFilled h.authInfo]

@[simp] theorem localName_toElement (x : ContactData) : x.toElement.localName = "infData" := by
  simp [toElement]

@[simp] theorem wellNamed_toElement (x : ContactData) : x.toElement.WellNamed := by
  simp +decide [toElement, ObjectKind.statuses, or_imp, forall_and]

@[simp] theorem namespaces_toElement (x : ContactData) :
    (UntypedData.ofElement x.toElement.trimmed).namespaces = .ofResponse .contact x.schema := by
  simp [UntypedData.ofElement, toElement]

@[simp] theorem contact_toElement (x : ContactData) :
    (UntypedData.ofElement x.toElement.trimmed).contact = .ok x.delivered := by
  rw [UntypedData.contact, describing_self x.namespaces_toElement]
  simp [UntypedData.ofElement, toElement, ObjectKind.statuses, readStatuses, Phone.childOf,
    PostalInfo.childrenOf, delivered, filledText, password_written, Function.comp_def]

@[simp] theorem domain_toElement (x : ContactData) :
    (UntypedData.ofElement x.toElement.trimmed).domain = .error (.notKind .domain) :=
  describing_other x.namespaces_toElement (by decide) _

@[simp] theorem host_toElement (x : ContactData) :
    (UntypedData.ofElement x.toElement.trimmed).host = .error (.notKind .host) :=
  describing_other x.namespaces_toElement (by decide) _

end ContactData

/-! ## What was renewed and transferred -/

namespace DomainRenewed

def delivered (x : DomainRenewed) : DomainRenewed :=
  { x with name := trimText x.name, expires := trimText x.expires }

structure Canonical (x : DomainRenewed) : Prop where
  name : IsTidy x.name
  expires : IsTidy x.expires

theorem Canonical.delivered_eq {x : DomainRenewed} (h : x.Canonical) : x.delivered = x := by
  rw [delivered, trimText_of_isTidy h.name, trimText_of_isTidy h.expires]

@[simp] theorem localName_toElement (x : DomainRenewed) : x.toElement.localName = "renData" := by
  simp [toElement]

@[simp] theorem wellNamed_toElement (x : DomainRenewed) : x.toElement.WellNamed := by
  simp +decide [toElement]

@[simp] theorem ofElement_toElement (x : DomainRenewed) :
    UntypedRenewed.ofElement x.toElement.trimmed =
      ⟨.ofResponse .domain x.schema, trimText x.name, trimText x.expires⟩ := by
  simp [UntypedRenewed.ofElement, toElement]

end DomainRenewed

namespace TransferState

def delivered (x : TransferState) : TransferState :=
  { status := trimText x.status
    requester := trimText x.requester
    requested := trimText x.requested
    acting := trimText x.acting
    acted := trimText x.acted }

structure Canonical (x : TransferState) : Prop where
  status : IsTidy x.status
  requester : IsTidy x.requester
  requested : IsTidy x.requested
  acting : IsTidy x.acting
  acted : IsTidy x.acted

theorem Canonical.delivered_eq {x : TransferState} (h : x.Canonical) : x.delivered = x := by
  rw [delivered, trimText_of_isTidy h.status, trimText_of_isTidy h.requester,
    trimText_of_isTidy h.requested, trimText_of_isTidy h.acting, trimText_of_isTidy h.acted]

end TransferState

namespace DomainTransferred

def delivered (x : DomainTransferred) : DomainTransferred :=
  { x with name := trimText x.name, state := x.state.delivered, expires := trimText x.expires }

structure Canonical (x : DomainTransferred) : Prop where
  name : IsTidy x.name
  state : x.state.Canonical
  expires : IsTidy x.expires

theorem Canonical.delivered_eq {x : DomainTransferred} (h : x.Canonical) : x.delivered = x := by
  rw [delivered, trimText_of_isTidy h.name, h.state.delivered_eq, trimText_of_isTidy h.expires]

@[simp] theorem localName_toElement (x : DomainTransferred) :
    x.toElement.localName = "trnData" := by
  simp [toElement]

@[simp] theorem wellNamed_toElement (x : DomainTransferred) : x.toElement.WellNamed := by
  simp +decide [toElement, TransferState.elements]

@[simp] theorem ofElement_toElement (x : DomainTransferred) :
    UntypedTransferred.ofElement x.toElement.trimmed =
      ⟨.ofResponse .domain x.schema, trimText x.name, "", x.state.delivered,
        trimText x.expires⟩ := by
  simp [UntypedTransferred.ofElement, TransferState.ofElement, toElement, TransferState.elements,
    TransferState.delivered]

end DomainTransferred

namespace ContactTransferred

def delivered (x : ContactTransferred) : ContactTransferred :=
  { x with id := trimText x.id, state := x.state.delivered }

structure Canonical (x : ContactTransferred) : Prop where
  id : IsTidy x.id
  state : x.state.Canonical

theorem Canonical.delivered_eq {x : ContactTransferred} (h : x.Canonical) : x.delivered = x := by
  rw [delivered, trimText_of_isTidy h.id, h.state.delivered_eq]

@[simp] theorem localName_toElement (x : ContactTransferred) :
    x.toElement.localName = "trnData" := by
  simp [toElement]

@[simp] theorem wellNamed_toElement (x : ContactTransferred) : x.toElement.WellNamed := by
  simp +decide [toElement, TransferState.elements]

@[simp] theorem ofElement_toElement (x : ContactTransferred) :
    UntypedTransferred.ofElement x.toElement.trimmed =
      ⟨.ofResponse .contact x.schema, "", trimText x.id, x.state.delivered, ""⟩ := by
  simp [UntypedTransferred.ofElement, TransferState.ofElement, toElement, TransferState.elements,
    TransferState.delivered]

end ContactTransferred

/-! ## All data of a response -/

namespace ResultData

def delivered (x : ResultData) : ResultData :=
  { domainCheck := x.domainCheck.map (·.map (·.delivered))
    domainCreate := x.domainCreate.map (·.delivered)
    domainInfo := x.domainInfo.map (·.delivered)
    domainRenew := x.domainRenew.map (·.delivered)
    domainTransfer := x.domainTransfer.map (·.delivered)
    hostCheck := x.hostCheck.map (·.map (·.delivered))
    hostCreate := x.hostCreate.map (·.delivered)
    hostInfo := x.hostInfo.map (·.delivered)
    contactCheck := x.contactCheck.map (·.map (·.delivered))
    contactCreate := x.contactCreate.map (·.delivered)
    contactInfo := x.contactInfo.map (·.delivered)
    contactTransfer := x.contactTransfer.map (·.delivered) }

/-- No verb has more than one kind. -/
structure Plain (x : ResultData) : Prop where
  check : AtMostOne [x.domainCheck.isSome, x.hostCheck.isSome, x.contactCheck.isSome]
  create : AtMostOne [x.domainCreate.isSome, x.hostCreate.isSome, x.contactCreate.isSome]
  info : AtMostOne [x.domainInfo.isSome, x.hostInfo.isSome, x.contactInfo.isSome]
  transfer : AtMostOne [x.domainTransfer.isSome, x.contactTransfer.isSome]

structure Canonical (x : ResultData) : Prop where
  plain : x.Plain
  domainCheck : ∀ items ∈ x.domainCheck, ∀ i ∈ items, i.Canonical
  domainCreate : ∀ c ∈ x.domainCreate, c.Canonical
  domainInfo : ∀ d ∈ x.domainInfo, d.Canonical
  domainRenew : ∀ r ∈ x.domainRenew, r.Canonical
  domainTransfer : ∀ t ∈ x.domainTransfer, t.Canonical
  hostCheck : ∀ items ∈ x.hostCheck, ∀ i ∈ items, i.Canonical
  hostCreate : ∀ c ∈ x.hostCreate, c.Canonical
  hostInfo : ∀ d ∈ x.hostInfo, d.Canonical
  contactCheck : ∀ items ∈ x.contactCheck, ∀ i ∈ items, i.Canonical
  contactCreate : ∀ c ∈ x.contactCreate, c.Canonical
  contactInfo : ∀ d ∈ x.contactInfo, d.Canonical
  contactTransfer : ∀ t ∈ x.contactTransfer, t.Canonical
  untyped : x.untypedCheck = none ∧ x.untypedCreate = none ∧ x.untypedInfo = none ∧
    x.untypedRenew = none ∧ x.untypedTransfer = none

theorem checked_self {o : Option (List CheckItem)} (h : ∀ items ∈ o, ∀ i ∈ items, i.Canonical) :
    o.map (·.map (·.delivered)) = o :=
  optionMap_self fun items hitems => listMap_self fun i hi => (h items hitems i hi).delivered_eq

theorem Canonical.delivered_eq {x : ResultData} (h : x.Canonical) : x.delivered = x := by
  obtain ⟨hcheck, hcreate, hinfo, hrenew, htransfer⟩ := h.untyped
  rw [delivered, checked_self h.domainCheck, checked_self h.hostCheck, checked_self h.contactCheck,
    optionMap_self fun c hc => (h.domainCreate c hc).delivered_eq,
    optionMap_self fun c hc => (h.hostCreate c hc).delivered_eq,
    optionMap_self fun c hc => (h.contactCreate c hc).delivered_eq,
    optionMap_self fun d hd => (h.domainInfo d hd).delivered_eq,
    optionMap_self fun d hd => (h.hostInfo d hd).delivered_eq,
    optionMap_self fun d hd => (h.contactInfo d hd).delivered_eq,
    optionMap_self fun r hr => (h.domainRenew r hr).delivered_eq,
    optionMap_self fun t ht => (h.domainTransfer t ht).delivered_eq,
    optionMap_self fun t ht => (h.contactTransfer t ht).delivered_eq]
  cases x
  simp_all

@[simp] theorem localName_toElement (x : ResultData) : x.toElement.localName = "resData" := by
  simp [toElement]

@[simp] theorem wellNamed_toElement (x : ResultData) : x.toElement.WellNamed := by
  simp +decide [toElement, or_imp, forall_and]

/-- Data that is read has no typed slots yet, and no verb has a say in the slots of another. -/
theorem typed_slots (e : Element) :
    (ofElement e).typed =
      { domainCheck := (addIf addChecked (ofElement e).untypedCheck {}).domainCheck
        domainCreate := (addIf addCreated (ofElement e).untypedCreate {}).domainCreate
        domainInfo := (addIf addInfo (ofElement e).untypedInfo {}).domainInfo
        domainRenew := (addIf addRenewed (ofElement e).untypedRenew {}).domainRenew
        domainTransfer := (addIf addTransferred (ofElement e).untypedTransfer {}).domainTransfer
        hostCheck := (addIf addChecked (ofElement e).untypedCheck {}).hostCheck
        hostCreate := (addIf addCreated (ofElement e).untypedCreate {}).hostCreate
        hostInfo := (addIf addInfo (ofElement e).untypedInfo {}).hostInfo
        contactCheck := (addIf addChecked (ofElement e).untypedCheck {}).contactCheck
        contactCreate := (addIf addCreated (ofElement e).untypedCreate {}).contactCreate
        contactInfo := (addIf addInfo (ofElement e).untypedInfo {}).contactInfo
        contactTransfer :=
          (addIf addTransferred (ofElement e).untypedTransfer {}).contactTransfer } := by
  rw [ofElement]
  -- what the five verbs are read as does not matter, only whether it is there
  generalize (e.child? "chkData").map UntypedChecked.ofElement = checked
  generalize (e.child? "creData").map UntypedCreated.ofElement = created
  generalize (e.child? "infData").map UntypedData.ofElement = known
  generalize (e.child? "renData").map UntypedRenewed.ofElement = renewed
  generalize (e.child? "trnData").map UntypedTransferred.ofElement = transferred
  cases checked <;> cases created <;> cases known <;> cases renewed <;> cases transferred <;> rfl

/-- The names that were checked are found again. -/
theorem addChecked_written {x : ResultData}
    (h : AtMostOne [x.domainCheck.isSome, x.hostCheck.isSome, x.contactCheck.isSome]) :
    addIf addChecked (ofElement x.toElement.trimmed).untypedCheck {} =
      { domainCheck := x.delivered.domainCheck
        hostCheck := x.delivered.hostCheck
        contactCheck := x.delivered.contactCheck } := by
  rcases atMostOne_three h with ⟨hd, hh, hc⟩ | ⟨d, hd, hh, hc⟩ | ⟨d, hd, hh, hc⟩ | ⟨d, hd, hh, hc⟩ <;>
    simp [ofElement, toElement, delivered, addIf, addChecked, hd, hh, hc]

theorem addCreated_written {x : ResultData}
    (h : AtMostOne [x.domainCreate.isSome, x.hostCreate.isSome, x.contactCreate.isSome]) :
    addIf addCreated (ofElement x.toElement.trimmed).untypedCreate {} =
      { domainCreate := x.delivered.domainCreate
        hostCreate := x.delivered.hostCreate
        contactCreate := x.delivered.contactCreate } := by
  rcases atMostOne_three h with ⟨hd, hh, hc⟩ | ⟨d, hd, hh, hc⟩ | ⟨d, hd, hh, hc⟩ | ⟨d, hd, hh, hc⟩ <;>
    simp [ofElement, toElement, delivered, addIf, addCreated, hd, hh, hc, DomainCreated.delivered,
      HostCreated.delivered, ContactCreated.delivered]

theorem addInfo_written {x : ResultData}
    (h : AtMostOne [x.domainInfo.isSome, x.hostInfo.isSome, x.contactInfo.isSome]) :
    addIf addInfo (ofElement x.toElement.trimmed).untypedInfo {} =
      { domainInfo := x.delivered.domainInfo
        hostInfo := x.delivered.hostInfo
        contactInfo := x.delivered.contactInfo } := by
  rcases atMostOne_three h with ⟨hd, hh, hc⟩ | ⟨d, hd, hh, hc⟩ | ⟨d, hd, hh, hc⟩ | ⟨d, hd, hh, hc⟩ <;>
    simp [ofElement, toElement, delivered, addIf, addInfo, hd, hh, hc, Except.toOption]

theorem addRenewed_written (x : ResultData) :
    addIf addRenewed (ofElement x.toElement.trimmed).untypedRenew {} =
      { domainRenew := x.delivered.domainRenew } := by
  cases hd : x.domainRenew <;>
    simp [ofElement, toElement, delivered, addIf, addRenewed, hd, DomainRenewed.delivered]

theorem addTransferred_written {x : ResultData}
    (h : AtMostOne [x.domainTransfer.isSome, x.contactTransfer.isSome]) :
    addIf addTransferred (ofElement x.toElement.trimmed).untypedTransfer {} =
      { domainTransfer := x.delivered.domainTransfer
        contactTransfer := x.delivered.contactTransfer } := by
  rcases atMostOne_two h with ⟨hd, hc⟩ | ⟨d, hd, hc⟩ | ⟨d, hd, hc⟩ <;>
    simp [ofElement, toElement, delivered, addIf, addTransferred, hd, hc,
      DomainTransferred.delivered, ContactTransferred.delivered]

/-- Data with one kind at most for every verb arrives. -/
theorem typed_ofElement {x : ResultData} (h : x.Plain) :
    (ofElement x.toElement.trimmed).typed = x.delivered := by
  obtain ⟨hcheck, hcreate, hinfo, htransfer⟩ := h
  rw [typed_slots, addChecked_written hcheck, addCreated_written hcreate, addInfo_written hinfo,
    addRenewed_written, addTransferred_written htransfer]
  rfl

end ResultData

end Provisioning
