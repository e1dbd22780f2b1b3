import Provisioning.Message.Login
import Provisioning.Proofs.Markup.Lookup

/-!
# How the messages of a session arrive

The greeting and the request for it, the login and the look into the queue. A menu of services
leaves its extensions out when it has none, which is read as a menu without extensions again.
-/

namespace Provisioning

open Markup Markup.Element

/-! ## Services -/

namespace ServiceMenu

/-- The extensions are found whether or not their element is written. -/
theorem texts_extensions (uris : List String) :
    ((if uris = [] then [] else [Element.node "svcExtension" (uris.map (.leaf "extURI"))]).head?.map
      fun e => (named "extURI" e.children).map fun c => trimText c.text).getD [] =
      uris.map trimText :=
  texts_section "extURI" (by simp [Function.comp_def])

theorem wellNamed_serviceElements (objects extensions : List String) :
    ∀ e ∈ serviceElements objects extensions, e.WellNamed := by
  intro e he
  rcases List.mem_append.mp he with he | he
  · obtain ⟨uri, -, rfl⟩ := List.mem_map.mp he
    exact wellNamed_leaf.mpr (by decide)
  · by_cases h : extensions = []
    · simp [h] at he
    · simp only [List.isEmpty_iff, h, if_false, List.mem_singleton] at he
      rw [he]
      simp +decide

def delivered (m : ServiceMenu) : ServiceMenu :=
  { version := trimText m.version
    language := trimText m.language
    objectUris := m.objectUris.map trimText
    extensionUris := m.extensionUris.map trimText }

structure Canonical (m : ServiceMenu) : Prop where
  version : IsTidy m.version
  language : IsTidy m.language
  objectUris : AreTidy m.objectUris
  extensionUris : AreTidy m.extensionUris

theorem Canonical.delivered_eq {m : ServiceMenu} (h : m.Canonical) : m.delivered = m := by
  rw [delivered, trimText_of_isTidy h.version, trimText_of_isTidy h.language,
    map_trimText h.objectUris, map_trimText h.extensionUris]

@[simp] theorem localName_toElement (m : ServiceMenu) : m.toElement.localName = "svcMenu" := by
  simp [toElement]

@[simp] theorem wellNamed_toElement (m : ServiceMenu) : m.toElement.WellNamed := by
  have hservices := wellNamed_serviceElements m.objectUris m.extensionUris
  simp +decide only [toElement, wellNamed_node, List.forall_mem_append, List.forall_mem_cons,
    wellNamed_leaf, true_and]
  exact ⟨by simp, hservices⟩

@[simp] theorem ofElement_toElement (m : ServiceMenu) :
    ofElement m.toElement.trimmed = m.delivered := by
  simp [ofElement, toElement, serviceElements, readExtensions, delivered, texts_extensions,
    Function.comp_def]

end ServiceMenu

/-! ## Greeting and hello -/

namespace DataPolicy

def delivered (p : DataPolicy) : DataPolicy :=
  { accessAll := trimText p.accessAll
    purposeAdmin := trimText p.purposeAdmin
    purposeProv := trimText p.purposeProv
    recipientOurs := trimText p.recipientOurs
    recipientPublic := trimText p.recipientPublic
    retentionStated := trimText p.retentionStated }

structure Canonical (p : DataPolicy) : Prop where
  accessAll : IsTidy p.accessAll
  purposeAdmin : IsTidy p.purposeAdmin
  purposeProv : IsTidy p.purposeProv
  recipientOurs : IsTidy p.recipientOurs
  recipientPublic : IsTidy p.recipientPublic
  retentionStated : IsTidy p.retentionStated

theorem Canonical.delivered_eq {p : DataPolicy} (h : p.Canonical) : p.delivered = p := by
  rw [delivered, trimText_of_isTidy h.accessAll, trimText_of_isTidy h.purposeAdmin,
    trimText_of_isTidy h.purposeProv, trimText_of_isTidy h.recipientOurs,
    trimText_of_isTidy h.recipientPublic, trimText_of_isTidy h.retentionStated]

@[simp] theorem localName_toElement (p : DataPolicy) : p.toElement.localName = "dcp" := by
  simp [toElement]

@[simp] theorem wellNamed_toElement (p : DataPolicy) : p.toElement.WellNamed := by
  simp +decide [toElement]

@[simp] theorem ofElement_toElement (p : DataPolicy) :
    ofElement p.toElement.trimmed = p.delivered := by
  simp [ofElement, toElement, delivered]

end DataPolicy

namespace Greeting

def delivered (g : Greeting) : Greeting :=
  { serverId := trimText g.serverId
    serverDate := trimText g.serverDate
    menu := g.menu.delivered
    policy := g.policy.delivered }

structure Canonical (g : Greeting) : Prop where
  serverId : IsTidy g.serverId
  serverDate : IsTidy g.serverDate
  menu : g.menu.Canonical
  policy : g.policy.Canonical

theorem Canonical.delivered_eq {g : Greeting} (h : g.Canonical) : g.delivered = g := by
  rw [delivered, trimText_of_isTidy h.serverId, trimText_of_isTidy h.serverDate,
    h.menu.delivered_eq, h.policy.delivered_eq]

@[simp] theorem localName_toElement (g : Greeting) : g.toElement.localName = "greeting" := by
  simp [toElement]

@[simp] theorem wellNamed_toElement (g : Greeting) : g.toElement.WellNamed := by
  simp +decide [toElement]

@[simp] theorem ofElement_toElement (g : Greeting) :
    ofElement g.toElement.trimmed = g.delivered := by
  simp [ofElement, toElement, delivered]

end Greeting

namespace Hello

@[simp] theorem localName_toElement (h : Hello) : h.toElement.localName = "hello" := by
  simp [toElement]

@[simp] theorem wellNamed_toElement (h : Hello) : h.toElement.WellNamed :=
  wellNamed_withAttr? (by simp +decide) (by decide) (by simp) h.xmlns

/-- A hello has no texts and arrives as it is. -/
@[simp] theorem ofElement_toElement (h : Hello) : ofElement h.toElement.trimmed = h := by
  obtain ⟨xmlns⟩ := h
  cases xmlns <;> simp [ofElement, toElement, exactAttr?]

end Hello

/-! ## Login and poll -/

namespace Login

def delivered (x : Login) : Login :=
  { clientId := trimText x.clientId
    password := trimText x.password
    newPassword := filledText x.newPassword
    version := trimText x.version
    language := trimText x.language
    objectUris := x.objectUris.map trimText
    extensionUris := x.extensionUris.map trimText }

structure Canonical (x : Login) : Prop where
  clientId : IsTidy x.clientId
  password : IsTidy x.password
  newPassword : IsTidyFilled x.newPassword
  version : IsTidy x.version
  language : IsTidy x.language
  objectUris : AreTidy x.objectUris
  extensionUris : AreTidy x.extensionUris

theorem Canonical.delivered_eq {x : Login} (h : x.Canonical) : x.delivered = x := by
  rw [delivered, trimText_of_isTidy h.clientId, trimText_of_isTidy h.password,
    filledText_of_isTidyFilled h.newPassword, trimText_of_isTidy h.version,
    trimText_of_isTidy h.language, map_trimText h.objectUris, map_trimText h.extensionUris]

@[simp] theorem localName_toElement (x : Login) : x.toElement.localName = "login" := by
  simp [toElement]

@[simp] theorem wellNamed_toElement (x : Login) : x.toElement.WellNamed := by
  have hservices := ServiceMenu.wellNamed_serviceElements x.objectUris x.extensionUris
  simpa +decide [toElement, or_imp, forall_and] using hservices

@[simp] theorem ofElement_toElement (x : Login) : ofElement x.toElement.trimmed = x.delivered := by
  simp [ofElement, toElement, ServiceMenu.serviceElements, ServiceMenu.readExtensions, delivered,
    ServiceMenu.texts_extensions, filledText, Function.comp_def]

end Login

@[simp] theorem PollOp.ofLabel?_label (op : PollOp) : ofLabel? op.label = some op := by
  cases op <;> rfl

namespace Poll

def delivered (x : Poll) : Poll := { x with messageId := filled x.messageId }

structure Canonical (x : Poll) : Prop where
  messageId : IsFilled x.messageId

theorem Canonical.delivered_eq {x : Poll} (h : x.Canonical) : x.delivered = x := by
  rw [delivered, filled_of_isFilled h.messageId]

@[simp] theorem localName_toElement (x : Poll) : x.toElement.localName = "poll" := by
  simp [toElement]

@[simp] theorem wellNamed_toElement (x : Poll) : x.toElement.WellNamed := by
  have hid : ((Element.node "poll" []).withAttr? "msgID" x.messageId).WellNamed :=
    wellNamed_withAttr? (by simp +decide) (by decide) (by simp) _
  exact wellNamed_withAttr hid (by decide) (by cases x.messageId <;> simp) _

@[simp] theorem ofElement_toElement (x : Poll) :
    ofElement x.toElement.trimmed = .ok x.delivered := by
  have hlabel : x.toElement.trimmed.attr? "op" = some x.op.label := by
    simp [toElement]
  rw [ofElement, hlabel]
  simp [toElement, delivered]

end Poll

end Provisioning
