import Provisioning.Object.Address
import Provisioning.Object.Contact
import Provisioning.Object.Period
import Provisioning.Object.Postal
import Provisioning.Proofs.Object.Builders

/-!
# How the parts of objects arrive

For every part of an object, `delivered` says what arrives of it when it is written, sent and read:
texts without the blanks at their ends, and no text where an empty one may be left out. What stands
in attributes arrives as it is. A part is `Canonical` when its texts are tidy and none that may be
left out is empty, so that nothing of this changes it (`Canonical.delivered_eq`).
-/

namespace Provisioning

open Markup Markup.Element

/-! ## Passwords, statuses and name servers -/

namespace ObjectKind

variable (k : ObjectKind)

@[simp] theorem localName_authInfo (password : String) :
    (k.authInfo password).localName = "authInfo" := by
  simp [authInfo]

@[simp] theorem children_authInfo (password : String) :
    (k.authInfo password).children = [k.leaf "pw" password] := rfl

@[simp] theorem wellNamed_authInfo (password : String) : (k.authInfo password).WellNamed := by
  simp +decide [authInfo]

@[simp] theorem wellNamed_status (s : String) :
    ((k.node "status" []).withAttr "s" s).WellNamed :=
  wellNamed_withAttr (by simp +decide) (by decide) (by simp) s

end ObjectKind

@[simp] theorem localName_nameservers (hosts : List String) :
    (nameservers hosts).localName = "ns" := by
  simp [nameservers]

@[simp] theorem texts_nameservers (hosts : List String) :
    (named "hostObj" (nameservers hosts).children).map (fun e => trimText e.text) =
      hosts.map trimText := by
  simp [nameservers, Function.comp_def]

/-- The element of the name servers is left out when there are none. -/
@[simp] theorem texts_nameservers_ite (hosts : List String) :
    ((if hosts = [] then [] else [nameservers hosts]).head?.map fun e =>
      (named "hostObj" e.children).map fun c => trimText c.text).getD [] = hosts.map trimText :=
  texts_section "hostObj" (texts_nameservers hosts)

@[simp] theorem wellNamed_nameservers (hosts : List String) : (nameservers hosts).WellNamed := by
  simp +decide [nameservers]

/-! ## Addresses of hosts -/

namespace HostAddress

def delivered (a : HostAddress) : HostAddress := { a with address := trimText a.address }

@[simp] theorem delivered_of_isTidy {a : HostAddress} (h : IsTidy a.address) : a.delivered = a := by
  rw [delivered, trimText_of_isTidy h]

@[simp] theorem localName_toElement (a : HostAddress) : a.toElement.localName = "addr" := by
  simp [toElement]

@[simp] theorem wellNamed_toElement (a : HostAddress) : a.toElement.WellNamed :=
  wellNamed_withAttr (by simp +decide) (by decide) (by simp) _

end HostAddress

@[simp] theorem IpVersion.ofLabel?_label (v : IpVersion) : ofLabel? v.label = some v := by
  cases v <;> rfl

namespace UntypedAddress

@[simp] theorem ofElement_toElement (a : HostAddress) :
    ofElement a.toElement.trimmed = ⟨a.ip.label, trimText a.address⟩ := by
  simp [ofElement, HostAddress.toElement]

/-- Every version is known by its name. -/
@[simp] theorem typedList_written (as : List HostAddress) :
    typedList (as.map fun a => ⟨a.ip.label, trimText a.address⟩) = as.map (·.delivered) := by
  simp [typedList, typed?, List.filterMap_map, Function.comp_def, HostAddress.delivered]

end UntypedAddress

/-! ## Contacts of a domain -/

namespace DomainContact

def delivered (c : DomainContact) : DomainContact := { c with id := trimText c.id }

@[simp] theorem delivered_of_isTidy {c : DomainContact} (h : IsTidy c.id) : c.delivered = c := by
  rw [delivered, trimText_of_isTidy h]

@[simp] theorem localName_toElement (c : DomainContact) : c.toElement.localName = "contact" := by
  simp [toElement]

@[simp] theorem wellNamed_toElement (c : DomainContact) : c.toElement.WellNamed :=
  wellNamed_withAttr (by simp +decide) (by decide) (by simp) _

end DomainContact

@[simp] theorem ContactRole.ofName_label (r : ContactRole) : ofName r.label = .ok r := by
  cases r <;> decide

namespace UntypedContact

@[simp] theorem ofElement_toElement (c : DomainContact) :
    ofElement c.toElement.trimmed = ⟨c.role.label, trimText c.id⟩ := by
  simp [ofElement, DomainContact.toElement]

/-- Every role is known by its name. -/
@[simp] theorem typedList_written (cs : List DomainContact) :
    typedList (cs.map fun c => ⟨c.role.label, trimText c.id⟩) = cs.map (·.delivered) := by
  simp [typedList, typed, List.filterMap_map, DomainContact.delivered, Except.map,
    Except.toOption]

end UntypedContact

/-! ## Periods -/

namespace Period

variable (p : Period) (k : ObjectKind)

@[simp] theorem localName_toElement : (p.toElement k).localName = "period" := by
  simp [toElement]

@[simp] theorem wellNamed_toElement : (p.toElement k).WellNamed :=
  wellNamed_withAttr (by simp +decide) (by decide) (by simp) _

@[simp] theorem ofLabel?_label (u : PeriodUnit) : PeriodUnit.ofLabel? u.label = some u := by
  cases u <;> rfl

/-- A period arrives as it is. -/
@[simp] theorem ofElement_toElement : ofElement (p.toElement k).trimmed = .ok p := by
  have hlabel : ((p.toElement k).trimmed.attr? "unit").getD "y" = p.unit.label := by
    simp [toElement]
  have htext : (p.toElement k).trimmed.text = toString p.value.toNat := by
    simp [toElement]
  rw [ofElement, hlabel, htext]
  simp [bind, Except.bind, pure, Except.pure]

theorem childOf_written {e : Element} {o : Option Period}
    (h : named "period" e.children = (o.map (·.toElement k)).toList) :
    childOf e.trimmed = .ok o := by
  unfold childOf
  cases o <;> simp [h, Except.map]

end Period

/-! ## What is known of a contact -/

namespace Address

def delivered (a : Address) : Address :=
  { street := a.street.map trimText
    city := trimText a.city
    sp := filledText a.sp
    pc := filledText a.pc
    cc := trimText a.cc }

structure Canonical (a : Address) : Prop where
  street : AreTidy a.street
  city : IsTidy a.city
  sp : IsTidyFilled a.sp
  pc : IsTidyFilled a.pc
  cc : IsTidy a.cc

@[simp] theorem Canonical.delivered_eq {a : Address} (h : a.Canonical) : a.delivered = a := by
  simp [delivered, h.street, h.city, h.sp, h.pc, h.cc]

@[simp] theorem localName_toElement (a : Address) : a.toElement.localName = "addr" := by
  simp [toElement]

@[simp] theorem wellNamed_toElement (a : Address) : a.toElement.WellNamed := by
  simp +decide [toElement, or_imp, forall_and]

@[simp] theorem ofElement_toElement (a : Address) : ofElement a.toElement.trimmed = a.delivered := by
  simp [ofElement, toElement, delivered, filledText, Function.comp_def]

end Address

namespace PostalInfo

def delivered (p : PostalInfo) : PostalInfo :=
  { form := p.form
    name := trimText p.name
    org := filledText p.org
    address := p.address.delivered }

structure Canonical (p : PostalInfo) : Prop where
  name : IsTidy p.name
  org : IsTidyFilled p.org
  address : p.address.Canonical

@[simp] theorem Canonical.delivered_eq {p : PostalInfo} (h : p.Canonical) : p.delivered = p := by
  simp [delivered, h.name, h.org, h.address]

@[simp] theorem localName_toElement (p : PostalInfo) : p.toElement.localName = "postalInfo" := by
  simp [toElement]

@[simp] theorem wellNamed_toElement (p : PostalInfo) : p.toElement.WellNamed :=
  wellNamed_withAttr (by simp +decide [or_imp, forall_and]) (by decide) (by simp) _

@[simp] theorem ofElement_toElement (p : PostalInfo) :
    ofElement p.toElement.trimmed = p.delivered := by
  simp [ofElement, toElement, delivered, filledText, Function.comp_def]

end PostalInfo

namespace Phone

def delivered (p : Phone) : Phone := ⟨trimText p.number, filled p.extension⟩

structure Canonical (p : Phone) : Prop where
  number : IsTidy p.number
  extension : IsFilled p.extension

@[simp] theorem Canonical.delivered_eq {p : Phone} (h : p.Canonical) : p.delivered = p := by
  simp [delivered, h.number, h.extension]

@[simp] theorem localName_toElement {name : String} (h : ':' ∉ name.toList) (p : Phone) :
    (p.toElement name).localName = name := by
  simp [toElement, h]

@[simp] theorem wellNamed_toElement {name : String} (h : isName name = true) (p : Phone) :
    (p.toElement name).WellNamed :=
  wellNamed_withAttr? (by simp [h]) (by decide) (by simp) _

@[simp] theorem ofElement_toElement (p : Phone) (name : String) :
    ofElement (p.toElement name).trimmed = p.delivered := by
  simp [ofElement, toElement, delivered]

end Phone

@[simp] theorem readFlag_flagText (b : Bool) : readFlag (some (flagText b)) = b := by
  cases b <;> decide

namespace Disclose

@[simp] theorem localName_toElement (d : Disclose) : d.toElement.localName = "disclose" := by
  simp [toElement]

theorem wellNamed_form {name : String} (h : isName name = true) (form : String) :
    ((ObjectKind.contact.node name []).withAttr "type" form).WellNamed :=
  wellNamed_withAttr (by simp [h]) (by decide) (by simp) form

@[simp] theorem wellNamed_toElement (d : Disclose) : d.toElement.WellNamed :=
  wellNamed_withAttr (by
    simp +decide [or_imp, forall_and, wellNamed_form]) (by decide) (by simp) _

/-- What may be disclosed stands in attributes and names, and arrives as it is. -/
@[simp] theorem ofElement_toElement (d : Disclose) : ofElement d.toElement.trimmed = d := by
  simp [ofElement, toElement, Function.comp_def]

end Disclose

end Provisioning
