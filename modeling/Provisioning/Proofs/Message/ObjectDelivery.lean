import Provisioning.Message.Create
import Provisioning.Message.Update
import Provisioning.Proofs.Message.QueryDelivery

/-!
# How objects and their changes arrive

The body of a create or an update is read into every field that any kind may have. What one kind
writes is found in the fields of that kind, and typing takes it out again; the fields of the other
kinds stay empty and are not asked for.
-/

namespace Provisioning

open Markup Markup.Element

/-! ## Create -/

namespace DomainCreate

def delivered (x : DomainCreate) : DomainCreate :=
  { name := trimText x.name
    period := x.period
    hosts := x.hosts.map trimText
    registrant := filledText x.registrant
    contacts := x.contacts.map (·.delivered)
    authInfo := x.authInfo.map trimText }

structure Canonical (x : DomainCreate) : Prop where
  name : IsTidy x.name
  hosts : AreTidy x.hosts
  registrant : IsTidyFilled x.registrant
  contacts : ∀ c ∈ x.contacts, IsTidy c.id
  authInfo : AreTidy x.authInfo.toList

theorem Canonical.delivered_eq {x : DomainCreate} (h : x.Canonical) : x.delivered = x := by
  rw [delivered, trimText_of_isTidy h.name, map_trimText h.hosts,
    filledText_of_isTidyFilled h.registrant, optionMap_trimText h.authInfo,
    listMap_self fun c hc => DomainContact.delivered_of_isTidy (h.contacts c hc)]

@[simp] theorem wellNamed_toElement (x : DomainCreate) : x.toElement.WellNamed := by
  simp +decide [toElement, or_imp, forall_and]

/-- What one of the fields of a new domain holds is found there. -/
theorem ofElement_toElement (x : DomainCreate) :
    ∃ u, UntypedCreate.ofElement x.toElement.trimmed = .ok u ∧ u.namespaces = .ofKind .domain ∧
      u.domain = x.delivered := by
  have hperiod := Period.childOf_written (e := x.toElement) (o := some x.period) (k := .domain)
    (by simp [toElement])
  refine ⟨_, by rw [UntypedCreate.ofElement, hperiod]; rfl, ?_, ?_⟩
  · simp [toElement]
  · simp [toElement, UntypedCreate.domain, delivered, readAuthInfo, readNameservers,
      UntypedContact.childrenOf, filledText, Function.comp_def]

end DomainCreate

namespace HostCreate

def delivered (x : HostCreate) : HostCreate :=
  ⟨trimText x.name, x.addresses.map (·.delivered)⟩

structure Canonical (x : HostCreate) : Prop where
  name : IsTidy x.name
  addresses : ∀ a ∈ x.addresses, IsTidy a.address

theorem Canonical.delivered_eq {x : HostCreate} (h : x.Canonical) : x.delivered = x := by
  rw [delivered, trimText_of_isTidy h.name,
    listMap_self fun a ha => HostAddress.delivered_of_isTidy (h.addresses a ha)]

@[simp] theorem wellNamed_toElement (x : HostCreate) : x.toElement.WellNamed := by
  simp +decide [toElement]

theorem ofElement_toElement (x : HostCreate) :
    ∃ u, UntypedCreate.ofElement x.toElement.trimmed = .ok u ∧ u.namespaces = .ofKind .host ∧
      u.host = x.delivered := by
  have hperiod := Period.childOf_written (e := x.toElement) (o := none) (k := .host)
    (by simp [toElement])
  refine ⟨_, by rw [UntypedCreate.ofElement, hperiod]; rfl, ?_, ?_⟩
  · simp [toElement]
  · simp [toElement, UntypedCreate.host, delivered, UntypedAddress.childrenOf, Function.comp_def]

end HostCreate

namespace ContactCreate

def delivered (x : ContactCreate) : ContactCreate :=
  { id := trimText x.id
    postalInfo := x.postalInfo.map (·.delivered)
    voice := x.voice.delivered
    fax := x.fax.delivered
    email := trimText x.email
    authInfo := x.authInfo.map trimText }

structure Canonical (x : ContactCreate) : Prop where
  id : IsTidy x.id
  postalInfo : ∀ p ∈ x.postalInfo, p.Canonical
  voice : x.voice.Canonical
  fax : x.fax.Canonical
  email : IsTidy x.email
  authInfo : AreTidy x.authInfo.toList

theorem Canonical.delivered_eq {x : ContactCreate} (h : x.Canonical) : x.delivered = x := by
  rw [delivered, trimText_of_isTidy h.id, listMap_self fun p hp => (h.postalInfo p hp).delivered_eq,
    h.voice.delivered_eq, h.fax.delivered_eq, trimText_of_isTidy h.email,
    optionMap_trimText h.authInfo]

@[simp] theorem wellNamed_toElement (x : ContactCreate) : x.toElement.WellNamed := by
  simp +decide [toElement, or_imp, forall_and]

theorem ofElement_toElement (x : ContactCreate) :
    ∃ u, UntypedCreate.ofElement x.toElement.trimmed = .ok u ∧ u.namespaces = .ofKind .contact ∧
      u.contact = x.delivered := by
  have hperiod := Period.childOf_written (e := x.toElement) (o := none) (k := .contact)
    (by simp [toElement])
  refine ⟨_, by rw [UntypedCreate.ofElement, hperiod]; rfl, ?_, ?_⟩
  · simp [toElement]
  · simp [toElement, UntypedCreate.contact, delivered, readAuthInfo, PostalInfo.childrenOf,
      Phone.childOf, Function.comp_def]

end ContactCreate

namespace Create

def delivered (x : Create) : Create :=
  { domain := x.domain.map (·.delivered)
    host := x.host.map (·.delivered)
    contact := x.contact.map (·.delivered) }

structure Canonical (x : Create) : Prop where
  sole : AtMostOne [x.domain.isSome, x.host.isSome, x.contact.isSome]
  domain : ∀ d ∈ x.domain, d.Canonical
  host : ∀ h ∈ x.host, h.Canonical
  contact : ∀ c ∈ x.contact, c.Canonical
  untyped : x.untyped = none

theorem Canonical.delivered_eq {x : Create} (h : x.Canonical) : x.delivered = x := by
  rw [delivered, optionMap_self fun d hd => (h.domain d hd).delivered_eq,
    optionMap_self fun d hd => (h.host d hd).delivered_eq,
    optionMap_self fun d hd => (h.contact d hd).delivered_eq, ← h.untyped]

@[simp] theorem localName_toElement (x : Create) : x.toElement.localName = "create" := by
  simp [toElement]

@[simp] theorem wellNamed_toElement (x : Create) : x.toElement.WellNamed := by
  simp +decide [toElement, or_imp, forall_and]

/-- The only object of a create is read, and becomes the object of the kind it declares. -/
theorem ofElement_sole {e : Element} {u : UntypedCreate}
    (h : UntypedCreate.ofElement e.trimmed = .ok u) :
    ofElement (Element.node "create" [e]).trimmed = .ok { untyped := some u } := by
  simp [ofElement, h, Except.map]

theorem typed_ofElement {x : Create}
    (h : AtMostOne [x.domain.isSome, x.host.isSome, x.contact.isSome]) :
    (ofElement x.toElement.trimmed).map typed = .ok x.delivered := by
  rcases atMostOne_three h with ⟨hd, hh, hc⟩ | ⟨d, hd, hh, hc⟩ | ⟨d, hd, hh, hc⟩ | ⟨d, hd, hh, hc⟩
  · simp [ofElement, toElement, hd, hh, hc, Except.map, typed, delivered]
  · obtain ⟨u, hu, hns, hdomain⟩ := d.ofElement_toElement
    have hread := ofElement_sole hu
    simp [toElement, hd, hh, hc, hread, Except.map, typed, delivered, hns, hdomain]
  · obtain ⟨u, hu, hns, hhost⟩ := d.ofElement_toElement
    have hread := ofElement_sole hu
    simp [toElement, hd, hh, hc, hread, Except.map, typed, delivered, hns, hhost]
  · obtain ⟨u, hu, hns, hcontact⟩ := d.ofElement_toElement
    have hread := ofElement_sole hu
    simp [toElement, hd, hh, hc, hread, Except.map, typed, delivered, hns, hcontact]

end Create

/-! ## Update -/

theorem UntypedSection.childOf_written {e s : Element} {name : String}
    (h : named name e.children = [s]) :
    childOf e.trimmed name = {
      hosts := readNameservers s.trimmed
      contacts := UntypedContact.childrenOf s.trimmed
      statuses := readStatuses s.trimmed
      addresses := UntypedAddress.childrenOf s.trimmed } := by
  simp [childOf, h]

namespace DomainSection

def delivered (s : DomainSection) : DomainSection :=
  { hosts := s.hosts.map trimText
    contacts := s.contacts.map (·.delivered)
    statuses := s.statuses }

structure Canonical (s : DomainSection) : Prop where
  hosts : AreTidy s.hosts
  contacts : ∀ c ∈ s.contacts, IsTidy c.id

theorem Canonical.delivered_eq {s : DomainSection} (h : s.Canonical) : s.delivered = s := by
  rw [delivered, map_trimText h.hosts,
    listMap_self fun c hc => DomainContact.delivered_of_isTidy (h.contacts c hc)]

@[simp] theorem localName_toElement {name : String} (h : ':' ∉ name.toList) (s : DomainSection) :
    (s.toElement name).localName = name := by
  simp [toElement, h]

@[simp] theorem wellNamed_toElement {name : String} (h : isName name = true) (s : DomainSection) :
    (s.toElement name).WellNamed := by
  simp [toElement, ObjectKind.statuses, h, or_imp, forall_and]

theorem childOf_written {e : Element} {name : String} {s : DomainSection}
    (h : named name e.children = [s.toElement name]) :
    (UntypedSection.childOf e.trimmed name).domain = s.delivered := by
  rw [UntypedSection.childOf_written h]
  simp [toElement, UntypedSection.domain, delivered, readNameservers, readStatuses,
    UntypedContact.childrenOf, ObjectKind.statuses, Function.comp_def]

end DomainSection

namespace HostSection

def delivered (s : HostSection) : HostSection := { s with addresses := s.addresses.map (·.delivered) }

@[simp] theorem localName_toElement {name : String} (h : ':' ∉ name.toList) (s : HostSection) :
    (s.toElement name).localName = name := by
  simp [toElement, h]

@[simp] theorem wellNamed_toElement {name : String} (h : isName name = true) (s : HostSection) :
    (s.toElement name).WellNamed := by
  simp [toElement, ObjectKind.statuses, h, or_imp, forall_and]

theorem delivered_of_isTidy {s : HostSection} (h : ∀ a ∈ s.addresses, IsTidy a.address) :
    s.delivered = s := by
  rw [delivered, listMap_self fun a ha => HostAddress.delivered_of_isTidy (h a ha)]

theorem childOf_written {e : Element} {name : String} {s : HostSection}
    (h : named name e.children = [s.toElement name]) :
    (UntypedSection.childOf e.trimmed name).host = s.delivered := by
  rw [UntypedSection.childOf_written h]
  simp [toElement, UntypedSection.host, delivered, readStatuses, UntypedAddress.childrenOf,
    ObjectKind.statuses, Function.comp_def]

end HostSection

namespace DomainUpdate

def delivered (x : DomainUpdate) : DomainUpdate :=
  { name := trimText x.name
    add := x.add.delivered
    remove := x.remove.delivered
    change := ⟨filledText x.change.registrant, x.change.authInfo.map trimText⟩ }

structure Canonical (x : DomainUpdate) : Prop where
  name : IsTidy x.name
  add : x.add.Canonical
  remove : x.remove.Canonical
  registrant : IsTidyFilled x.change.registrant
  authInfo : AreTidy x.change.authInfo.toList

theorem Canonical.delivered_eq {x : DomainUpdate} (h : x.Canonical) : x.delivered = x := by
  rw [delivered, trimText_of_isTidy h.name, h.add.delivered_eq, h.remove.delivered_eq,
    filledText_of_isTidyFilled h.registrant, optionMap_trimText h.authInfo]

@[simp] theorem wellNamed_toElement (x : DomainUpdate) : x.toElement.WellNamed := by
  simp +decide [toElement, or_imp, forall_and]

theorem ofElement_toElement (x : DomainUpdate) :
    (UntypedUpdate.ofElement x.toElement.trimmed).namespaces = .ofKind .domain ∧
      (UntypedUpdate.ofElement x.toElement.trimmed).domain = x.delivered := by
  have hadd : named "add" x.toElement.children = [x.add.toElement "add"] := by
    simp [toElement]
  have hremove : named "rem" x.toElement.children = [x.remove.toElement "rem"] := by
    simp [toElement]
  constructor
  · simp [UntypedUpdate.ofElement, toElement]
  · simp only [UntypedUpdate.domain, UntypedUpdate.ofElement,
      DomainSection.childOf_written hadd, DomainSection.childOf_written hremove]
    simp [toElement, UntypedChange.ofElement, delivered, readAuthInfo, filledText,
      Function.comp_def]

end DomainUpdate

namespace HostUpdate

def delivered (x : HostUpdate) : HostUpdate :=
  { name := trimText x.name
    add := x.add.delivered
    remove := x.remove.delivered
    newName := filledText x.newName }

structure Canonical (x : HostUpdate) : Prop where
  name : IsTidy x.name
  add : ∀ a ∈ x.add.addresses, IsTidy a.address
  remove : ∀ a ∈ x.remove.addresses, IsTidy a.address
  newName : IsTidyFilled x.newName

theorem Canonical.delivered_eq {x : HostUpdate} (h : x.Canonical) : x.delivered = x := by
  rw [delivered, trimText_of_isTidy h.name, HostSection.delivered_of_isTidy h.add,
    HostSection.delivered_of_isTidy h.remove, filledText_of_isTidyFilled h.newName]

@[simp] theorem wellNamed_toElement (x : HostUpdate) : x.toElement.WellNamed := by
  simp +decide [toElement, or_imp, forall_and]

theorem ofElement_toElement (x : HostUpdate) :
    (UntypedUpdate.ofElement x.toElement.trimmed).namespaces = .ofKind .host ∧
      (UntypedUpdate.ofElement x.toElement.trimmed).host = x.delivered := by
  have hadd : named "add" x.toElement.children = [x.add.toElement "add"] := by
    simp [toElement]
  have hremove : named "rem" x.toElement.children = [x.remove.toElement "rem"] := by
    simp [toElement]
  constructor
  · simp [UntypedUpdate.ofElement, toElement]
  · simp only [UntypedUpdate.host, UntypedUpdate.ofElement,
      HostSection.childOf_written hadd, HostSection.childOf_written hremove]
    -- the element of the change is written for a new name only
    cases hname : x.newName <;>
      simp [toElement, UntypedChange.ofElement, delivered, filledText, filled, hname]

end HostUpdate

namespace ContactChange

def delivered (c : ContactChange) : ContactChange :=
  { postalInfo := c.postalInfo.map (·.delivered)
    voice := c.voice.map (·.delivered)
    fax := c.fax.map (·.delivered)
    email := filledText c.email
    authInfo := c.authInfo.map trimText }

structure Canonical (c : ContactChange) : Prop where
  postalInfo : ∀ p ∈ c.postalInfo, p.Canonical
  voice : ∀ p ∈ c.voice, p.Canonical
  fax : ∀ p ∈ c.fax, p.Canonical
  email : IsTidyFilled c.email
  authInfo : AreTidy c.authInfo.toList

theorem Canonical.delivered_eq {c : ContactChange} (h : c.Canonical) : c.delivered = c := by
  rw [delivered, optionMap_self fun p hp => (h.postalInfo p hp).delivered_eq,
    optionMap_self fun p hp => (h.voice p hp).delivered_eq,
    optionMap_self fun p hp => (h.fax p hp).delivered_eq, filledText_of_isTidyFilled h.email,
    optionMap_trimText h.authInfo]

end ContactChange

namespace ContactUpdate

def delivered (x : ContactUpdate) : ContactUpdate :=
  { x with id := trimText x.id, change := x.change.delivered }

structure Canonical (x : ContactUpdate) : Prop where
  id : IsTidy x.id
  change : x.change.Canonical

theorem Canonical.delivered_eq {x : ContactUpdate} (h : x.Canonical) : x.delivered = x := by
  rw [delivered, trimText_of_isTidy h.id, h.change.delivered_eq]

@[simp] theorem wellNamed_toElement (x : ContactUpdate) : x.toElement.WellNamed := by
  simp +decide [toElement, ObjectKind.statuses, or_imp, forall_and]

theorem ofElement_toElement (x : ContactUpdate) :
    (UntypedUpdate.ofElement x.toElement.trimmed).namespaces = .ofKind .contact ∧
      (UntypedUpdate.ofElement x.toElement.trimmed).contact = x.delivered := by
  constructor
  · simp [UntypedUpdate.ofElement, toElement]
  · simp [UntypedUpdate.contact, UntypedUpdate.ofElement, UntypedSection.childOf, readStatuses,
      ObjectKind.statuses, toElement, UntypedChange.ofElement, delivered, ContactChange.delivered,
      Phone.childOf, readAuthInfo, filledText, Function.comp_def]

end ContactUpdate

namespace Update

def delivered (x : Update) : Update :=
  { domain := x.domain.map (·.delivered)
    host := x.host.map (·.delivered)
    contact := x.contact.map (·.delivered) }

structure Canonical (x : Update) : Prop where
  sole : AtMostOne [x.domain.isSome, x.host.isSome, x.contact.isSome]
  domain : ∀ d ∈ x.domain, d.Canonical
  host : ∀ h ∈ x.host, h.Canonical
  contact : ∀ c ∈ x.contact, c.Canonical
  untyped : x.untyped = none

theorem Canonical.delivered_eq {x : Update} (h : x.Canonical) : x.delivered = x := by
  rw [delivered, optionMap_self fun d hd => (h.domain d hd).delivered_eq,
    optionMap_self fun d hd => (h.host d hd).delivered_eq,
    optionMap_self fun d hd => (h.contact d hd).delivered_eq, ← h.untyped]

@[simp] theorem localName_toElement (x : Update) : x.toElement.localName = "update" := by
  simp [toElement]

@[simp] theorem wellNamed_toElement (x : Update) : x.toElement.WellNamed := by
  simp +decide [toElement, or_imp, forall_and]

theorem typed_ofElement {x : Update}
    (h : AtMostOne [x.domain.isSome, x.host.isSome, x.contact.isSome]) :
    (ofElement x.toElement.trimmed).typed = x.delivered := by
  rcases atMostOne_three h with ⟨hd, hh, hc⟩ | ⟨d, hd, hh, hc⟩ | ⟨d, hd, hh, hc⟩ | ⟨d, hd, hh, hc⟩
  · simp [ofElement, toElement, hd, hh, hc, typed, delivered]
  · obtain ⟨hns, hdomain⟩ := d.ofElement_toElement
    simp [ofElement, toElement, hd, hh, hc, typed, delivered, hns, hdomain]
  · obtain ⟨hns, hhost⟩ := d.ofElement_toElement
    simp [ofElement, toElement, hd, hh, hc, typed, delivered, hns, hhost]
  · obtain ⟨hns, hcontact⟩ := d.ofElement_toElement
    simp [ofElement, toElement, hd, hh, hc, typed, delivered, hns, hcontact]

end Update

end Provisioning
