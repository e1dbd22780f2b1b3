import Provisioning.Message.Check
import Provisioning.Message.Delete
import Provisioning.Message.Info
import Provisioning.Message.Renew
import Provisioning.Message.Transfer
import Provisioning.Proofs.Object.Delivery

/-!
# How commands that name objects arrive

A command writes a body for each kind that it has and reads the bodies without regard to their kind;
typing then gives every body to the kind it declares. Apart from a check, only the first body is
read, so a command arrives whole when it has one kind at most (`AtMostOne`).
-/

namespace Provisioning

open Markup Markup.Element

/-- At most one of the parts is there. -/
def AtMostOne (present : List Bool) : Prop := present.count true ≤ 1

instance (present : List Bool) : Decidable (AtMostOne present) :=
  inferInstanceAs (Decidable (_ ≤ _))

theorem atMostOne_two {α β : Type} {a : Option α} {b : Option β}
    (h : AtMostOne [a.isSome, b.isSome]) :
    (a = none ∧ b = none) ∨ (∃ x, a = some x ∧ b = none) ∨ (∃ y, a = none ∧ b = some y) := by
  cases a <;> cases b <;> simp_all [AtMostOne]

theorem atMostOne_three {α β γ : Type} {a : Option α} {b : Option β} {c : Option γ}
    (h : AtMostOne [a.isSome, b.isSome, c.isSome]) :
    (a = none ∧ b = none ∧ c = none) ∨ (∃ x, a = some x ∧ b = none ∧ c = none) ∨
      (∃ y, a = none ∧ b = some y ∧ c = none) ∨ (∃ z, a = none ∧ b = none ∧ c = some z) := by
  cases a <;> cases b <;> cases c <;> simp_all [AtMostOne]

/-! ## Check -/

namespace Check

def delivered (x : Check) : Check :=
  { domain := x.domain.map (·.map trimText)
    host := x.host.map (·.map trimText)
    contact := x.contact.map (·.map trimText) }

structure Canonical (x : Check) : Prop where
  domain : ∀ names ∈ x.domain, AreTidy names
  host : ∀ names ∈ x.host, AreTidy names
  contact : ∀ ids ∈ x.contact, AreTidy ids
  untyped : x.untyped = []

theorem Canonical.delivered_eq {x : Check} (h : x.Canonical) : x.delivered = x := by
  rw [delivered, optionMap_map_trimText h.domain, optionMap_map_trimText h.host,
    optionMap_map_trimText h.contact, ← h.untyped]

@[simp] theorem localName_toElement (x : Check) : x.toElement.localName = "check" := by
  simp [toElement]

@[simp] theorem wellNamed_toElement (x : Check) : x.toElement.WellNamed := by
  simp +decide [toElement, body, or_imp, forall_and]

/-- A check arrives with the names of every kind, however many kinds it has. -/
theorem typed_ofElement (x : Check) : (ofElement x.toElement.trimmed).typed = x.delivered := by
  obtain ⟨domain, host, contact, untyped⟩ := x
  cases domain <;> cases host <;> cases contact <;>
    simp [ofElement, toElement, body, typed, add, UntypedCheck.extend, delivered, Function.comp_def]

end Check

/-! ## Delete -/

namespace Delete

def delivered (x : Delete) : Delete :=
  { domain := x.domain.map trimText
    host := x.host.map trimText
    contact := x.contact.map trimText }

structure Canonical (x : Delete) : Prop where
  sole : AtMostOne [x.domain.isSome, x.host.isSome, x.contact.isSome]
  domain : AreTidy x.domain.toList
  host : AreTidy x.host.toList
  contact : AreTidy x.contact.toList
  untyped : x.untyped = none

theorem Canonical.delivered_eq {x : Delete} (h : x.Canonical) : x.delivered = x := by
  rw [delivered, optionMap_trimText h.domain, optionMap_trimText h.host,
    optionMap_trimText h.contact, ← h.untyped]

@[simp] theorem localName_toElement (x : Delete) : x.toElement.localName = "delete" := by
  simp [toElement]

@[simp] theorem wellNamed_toElement (x : Delete) : x.toElement.WellNamed := by
  simp +decide [toElement, body, or_imp, forall_and]

theorem typed_ofElement {x : Delete}
    (h : AtMostOne [x.domain.isSome, x.host.isSome, x.contact.isSome]) :
    (ofElement x.toElement.trimmed).typed = x.delivered := by
  rcases atMostOne_three h with ⟨hd, hh, hc⟩ | ⟨d, hd, hh, hc⟩ | ⟨d, hd, hh, hc⟩ | ⟨d, hd, hh, hc⟩ <;>
    simp [ofElement, toElement, body, typed, delivered, hd, hh, hc]

end Delete

/-! ## Info -/

namespace DomainInfo

def delivered (x : DomainInfo) : DomainInfo :=
  { x with name := trimText x.name, authInfo := x.authInfo.map trimText }

structure Canonical (x : DomainInfo) : Prop where
  name : IsTidy x.name
  authInfo : AreTidy x.authInfo.toList

theorem Canonical.delivered_eq {x : DomainInfo} (h : x.Canonical) : x.delivered = x := by
  rw [delivered, trimText_of_isTidy h.name, optionMap_trimText h.authInfo]

end DomainInfo

namespace HostInfo

def delivered (x : HostInfo) : HostInfo := ⟨trimText x.name, x.authInfo.map trimText⟩

structure Canonical (x : HostInfo) : Prop where
  name : IsTidy x.name
  authInfo : AreTidy x.authInfo.toList

theorem Canonical.delivered_eq {x : HostInfo} (h : x.Canonical) : x.delivered = x := by
  rw [delivered, trimText_of_isTidy h.name, optionMap_trimText h.authInfo]

end HostInfo

namespace ContactInfo

def delivered (x : ContactInfo) : ContactInfo := ⟨trimText x.id, x.authInfo.map trimText⟩

structure Canonical (x : ContactInfo) : Prop where
  id : IsTidy x.id
  authInfo : AreTidy x.authInfo.toList

theorem Canonical.delivered_eq {x : ContactInfo} (h : x.Canonical) : x.delivered = x := by
  rw [delivered, trimText_of_isTidy h.id, optionMap_trimText h.authInfo]

end ContactInfo

/-- Every filter has a name, which is not empty. -/
@[simp] theorem HostsFilter.filled_label (f : HostsFilter) :
    (filled (some f.label)).bind ofLabel? = some f := by
  cases f <;> decide

namespace Info

def delivered (x : Info) : Info :=
  { domain := x.domain.map (·.delivered)
    host := x.host.map (·.delivered)
    contact := x.contact.map (·.delivered) }

structure Canonical (x : Info) : Prop where
  sole : AtMostOne [x.domain.isSome, x.host.isSome, x.contact.isSome]
  domain : ∀ d ∈ x.domain, d.Canonical
  host : ∀ h ∈ x.host, h.Canonical
  contact : ∀ c ∈ x.contact, c.Canonical
  untyped : x.untyped = none

theorem Canonical.delivered_eq {x : Info} (h : x.Canonical) : x.delivered = x := by
  rw [delivered, optionMap_self fun d hd => (h.domain d hd).delivered_eq,
    optionMap_self fun d hd => (h.host d hd).delivered_eq,
    optionMap_self fun d hd => (h.contact d hd).delivered_eq, ← h.untyped]

@[simp] theorem localName_toElement (x : Info) : x.toElement.localName = "info" := by
  simp [toElement]

@[simp] theorem wellNamed_toElement (x : Info) : x.toElement.WellNamed := by
  have hname (d : DomainInfo) :
      ((ObjectKind.domain.leaf "name" d.name).withAttr "hosts" d.hosts.label).WellNamed :=
    wellNamed_withAttr (by simp +decide) (by decide) (by simp) _
  simp +decide [toElement, or_imp, forall_and, hname]

theorem typed_ofElement {x : Info}
    (h : AtMostOne [x.domain.isSome, x.host.isSome, x.contact.isSome]) :
    (ofElement x.toElement.trimmed).typed = x.delivered := by
  rcases atMostOne_three h with ⟨hd, hh, hc⟩ | ⟨d, hd, hh, hc⟩ | ⟨d, hd, hh, hc⟩ | ⟨d, hd, hh, hc⟩ <;>
    simp [ofElement, toElement, typed, delivered, hd, hh, hc, UntypedInfo.ofElement,
      UntypedInfo.domain, UntypedInfo.host, UntypedInfo.contact, DomainInfo.delivered,
      HostInfo.delivered, ContactInfo.delivered, readAuthInfo, Function.comp_def]

end Info

/-! ## Renew -/

namespace DomainRenew

def delivered (x : DomainRenew) : DomainRenew :=
  { x with name := trimText x.name, currentExpiry := trimText x.currentExpiry }

structure Canonical (x : DomainRenew) : Prop where
  name : IsTidy x.name
  currentExpiry : IsTidy x.currentExpiry

theorem Canonical.delivered_eq {x : DomainRenew} (h : x.Canonical) : x.delivered = x := by
  rw [delivered, trimText_of_isTidy h.name, trimText_of_isTidy h.currentExpiry]

end DomainRenew

namespace Renew

def delivered (x : Renew) : Renew := { domain := x.domain.map (·.delivered) }

structure Canonical (x : Renew) : Prop where
  domain : ∀ d ∈ x.domain, d.Canonical
  untyped : x.untyped = none

theorem Canonical.delivered_eq {x : Renew} (h : x.Canonical) : x.delivered = x := by
  rw [delivered, optionMap_self fun d hd => (h.domain d hd).delivered_eq, ← h.untyped]

@[simp] theorem localName_toElement (x : Renew) : x.toElement.localName = "renew" := by
  simp [toElement]

@[simp] theorem wellNamed_toElement (x : Renew) : x.toElement.WellNamed := by
  simp +decide [toElement, or_imp, forall_and]

theorem typed_ofElement (x : Renew) :
    (ofElement x.toElement.trimmed).map typed = .ok x.delivered := by
  cases hd : x.domain with
  | none => simp [ofElement, toElement, hd, Except.map, typed, delivered]
  | some d =>
      have hperiod := Period.childOf_written (o := some d.period) (k := .domain)
        (e := ObjectKind.domain.commandRoot "renew" [ObjectKind.domain.leaf "name" d.name,
          ObjectKind.domain.leaf "curExpDate" d.currentExpiry, d.period.toElement .domain])
        (by simp)
      simp [ofElement, toElement, hd, UntypedRenew.ofElement, hperiod, bind, Except.bind, pure,
        Except.pure, Except.map, typed, delivered, UntypedRenew.domain, DomainRenew.delivered]

end Renew

/-! ## Transfer -/

namespace DomainTransfer

def delivered (x : DomainTransfer) : DomainTransfer :=
  { x with name := trimText x.name, authInfo := x.authInfo.map trimText }

structure Canonical (x : DomainTransfer) : Prop where
  name : IsTidy x.name
  authInfo : AreTidy x.authInfo.toList

theorem Canonical.delivered_eq {x : DomainTransfer} (h : x.Canonical) : x.delivered = x := by
  rw [delivered, trimText_of_isTidy h.name, optionMap_trimText h.authInfo]

end DomainTransfer

namespace ContactTransfer

def delivered (x : ContactTransfer) : ContactTransfer :=
  ⟨trimText x.id, x.authInfo.map trimText⟩

structure Canonical (x : ContactTransfer) : Prop where
  id : IsTidy x.id
  authInfo : AreTidy x.authInfo.toList

theorem Canonical.delivered_eq {x : ContactTransfer} (h : x.Canonical) : x.delivered = x := by
  rw [delivered, trimText_of_isTidy h.id, optionMap_trimText h.authInfo]

end ContactTransfer

@[simp] theorem TransferOp.ofLabel?_label (op : TransferOp) : ofLabel? op.label = some op := by
  cases op <;> rfl

namespace Transfer

def delivered (x : Transfer) : Transfer :=
  { op := x.op
    domain := x.domain.map (·.delivered)
    contact := x.contact.map (·.delivered) }

structure Canonical (x : Transfer) : Prop where
  sole : AtMostOne [x.domain.isSome, x.contact.isSome]
  domain : ∀ d ∈ x.domain, d.Canonical
  contact : ∀ c ∈ x.contact, c.Canonical
  untyped : x.untyped = none

theorem Canonical.delivered_eq {x : Transfer} (h : x.Canonical) : x.delivered = x := by
  rw [delivered, optionMap_self fun d hd => (h.domain d hd).delivered_eq,
    optionMap_self fun d hd => (h.contact d hd).delivered_eq, ← h.untyped]

@[simp] theorem localName_toElement (x : Transfer) : x.toElement.localName = "transfer" := by
  simp [toElement]

@[simp] theorem wellNamed_toElement (x : Transfer) : x.toElement.WellNamed :=
  wellNamed_withAttr (by simp +decide [or_imp, forall_and]) (by decide) (by simp) _

theorem typed_ofElement {x : Transfer} (h : AtMostOne [x.domain.isSome, x.contact.isSome]) :
    (ofElement x.toElement.trimmed).map typed = .ok x.delivered := by
  rcases atMostOne_two h with ⟨hd, hc⟩ | ⟨d, hd, hc⟩ | ⟨c, hd, hc⟩
  · simp [ofElement, toElement, hd, hc, Except.map, typed, delivered]
  · have hperiod := Period.childOf_written (o := d.period) (k := .domain)
      (e := ObjectKind.domain.commandRoot "transfer" (ObjectKind.domain.leaf "name" d.name ::
        ((d.period.map (·.toElement .domain)).toList ++
          (d.authInfo.map ObjectKind.domain.authInfo).toList)))
      (by simp)
    simp [ofElement, toElement, hd, hc, UntypedTransfer.ofElement, hperiod, bind, Except.bind, pure,
      Except.pure, Except.map, typed, delivered, UntypedTransfer.domain, DomainTransfer.delivered,
      readAuthInfo, Function.comp_def]
  · have hperiod := Period.childOf_written (o := none) (k := .contact)
      (e := ObjectKind.contact.commandRoot "transfer" (ObjectKind.contact.leaf "id" c.id ::
        (c.authInfo.map ObjectKind.contact.authInfo).toList))
      (by simp)
    simp [ofElement, toElement, hd, hc, UntypedTransfer.ofElement, hperiod, bind, Except.bind, pure,
      Except.pure, Except.map, typed, delivered, UntypedTransfer.contact,
      ContactTransfer.delivered, readAuthInfo, Function.comp_def]

end Transfer

end Provisioning
