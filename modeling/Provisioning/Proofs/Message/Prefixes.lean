import Provisioning.Message.Envelope
import Provisioning.Proofs.Markup.Variants

/-!
# Prefixes decide nothing

A message is read from its tree by readers for its parts, and these by readers for theirs, down to
texts and attributes. Every one of them looks up what it reads by local name, so none tells variants
of a tree apart: there is one lemma for each reader, and it follows from those for the readers that
it calls. Only extensions keep elements as they were read, prefixes and all; typing reads those too,
and of what is then left nothing is an element.
-/

namespace Provisioning

open Markup Markup.Element

variable {a b : Element}

/-! ## Objects -/

theorem Namespaces.ofElement_congr (h : a.Variant b) : ofElement a = ofElement b := by
  simp only [ofElement, h.filledAttr?]

theorem readAuthInfo_congr (h : a.Variant b) : readAuthInfo a = readAuthInfo b :=
  h.map_child? (fun hc => hc.childText "pw") "authInfo"

theorem readStatuses_congr (h : a.Variant b) : readStatuses a = readStatuses b :=
  h.filterMap_childrenNamed (fun hc => hc.attr? "s") "status"

theorem readNameservers_congr (h : a.Variant b) : readNameservers a = readNameservers b := by
  rw [readNameservers, readNameservers, h.map_child? fun hc => hc.childTexts "hostObj"]

namespace UntypedAddress

theorem ofElement_congr (h : a.Variant b) : ofElement a = ofElement b := by
  rw [ofElement, ofElement, h.attr?, h.text_eq]

theorem childrenOf_congr (h : a.Variant b) : childrenOf a = childrenOf b :=
  h.map_childrenNamed ofElement_congr "addr"

end UntypedAddress

namespace UntypedContact

theorem ofElement_congr (h : a.Variant b) : ofElement a = ofElement b := by
  rw [ofElement, ofElement, h.attr?, h.text_eq]

theorem childrenOf_congr (h : a.Variant b) : childrenOf a = childrenOf b :=
  h.map_childrenNamed ofElement_congr "contact"

end UntypedContact

namespace Period

theorem ofElement_congr (h : a.Variant b) : ofElement a = ofElement b := by
  rw [ofElement, ofElement, h.attr?, h.text_eq]

theorem childOf_congr (h : a.Variant b) : childOf a = childOf b := by
  unfold childOf
  rcases rel_cases (h.child? "period") with ⟨ha, hb⟩ | ⟨x, y, ha, hb, hxy⟩
  · rw [ha, hb]
  · simp only [ha, hb, ofElement_congr hxy]

end Period

theorem Address.ofElement_congr (h : a.Variant b) : ofElement a = ofElement b := by
  simp only [ofElement, h.childTexts, h.childText, h.filledChildText?]

namespace PostalInfo

theorem ofElement_congr (h : a.Variant b) : ofElement a = ofElement b := by
  simp only [ofElement, h.attr?, h.childText, h.filledChildText?,
    h.map_child? Address.ofElement_congr]

theorem childrenOf_congr (h : a.Variant b) : childrenOf a = childrenOf b :=
  h.map_childrenNamed ofElement_congr "postalInfo"

end PostalInfo

namespace Phone

theorem ofElement_congr (h : a.Variant b) : ofElement a = ofElement b := by
  rw [ofElement, ofElement, h.text_eq, h.filledAttr?]

theorem childOf_congr (h : a.Variant b) (name : String) : childOf a name = childOf b name :=
  h.map_child? ofElement_congr name

end Phone

theorem Disclose.ofElement_congr (h : a.Variant b) : ofElement a = ofElement b := by
  have hforms (name : String) := h.map_childrenNamed
    (f := fun c => (c.attr? "type").getD "") (fun hc => by rw [hc.attr?]) name
  simp only [ofElement, h.attr?, h.hasChild, hforms]

/-! ## Sessions -/

namespace ServiceMenu

theorem readExtensions_congr (h : a.Variant b) : readExtensions a = readExtensions b := by
  rw [readExtensions, readExtensions, h.map_child? fun hc => hc.childTexts "extURI"]

theorem ofElement_congr (h : a.Variant b) : ofElement a = ofElement b := by
  simp only [ofElement, h.childText, h.childTexts, readExtensions_congr h]

end ServiceMenu

theorem DataPolicy.ofElement_congr (h : a.Variant b) : ofElement a = ofElement b := by
  have htext (path : List String) (field : String) :=
    map_congr_of_rel (f := fun c => c.childText field) (fun hc => hc.childText field)
      (h.foldlM_child? path)
  simp only [ofElement, htext]

theorem Greeting.ofElement_congr (h : a.Variant b) : ofElement a = ofElement b := by
  simp only [ofElement, h.childText, h.map_child? ServiceMenu.ofElement_congr,
    h.map_child? DataPolicy.ofElement_congr]

theorem Hello.ofElement_congr (h : a.Variant b) : ofElement a = ofElement b := by
  rw [ofElement, ofElement, h.exactAttr?]

theorem Login.ofElement_congr (h : a.Variant b) : ofElement a = ofElement b := by
  have htext (field : String) := h.map_child? (f := fun c => c.childText field)
    fun hc => hc.childText field
  have htexts (field : String) := h.map_child? (f := fun c => c.childTexts field)
    fun hc => hc.childTexts field
  simp only [ofElement, h.childText, h.filledChildText?, htext, htexts,
    h.map_child? ServiceMenu.readExtensions_congr]

theorem Poll.ofElement_congr (h : a.Variant b) : ofElement a = ofElement b := by
  rw [ofElement, ofElement, h.attr?, h.filledAttr?]

/-! ## Commands about objects -/

theorem Check.ofElement_congr (h : a.Variant b) : ofElement a = ofElement b := by
  have hbody := h.map_childrenNamed (f := fun c =>
      (⟨.ofElement c, c.childTexts "name", c.childTexts "id"⟩ : UntypedCheck))
    fun hc => by rw [Namespaces.ofElement_congr hc, hc.childTexts, hc.childTexts]
  rw [ofElement, ofElement, hbody]

theorem UntypedCreate.ofElement_congr (h : a.Variant b) : ofElement a = ofElement b := by
  simp only [ofElement, Period.childOf_congr h, Namespaces.ofElement_congr h, h.childText,
    h.filledChildText?, UntypedContact.childrenOf_congr h, PostalInfo.childrenOf_congr h,
    Phone.childOf_congr h, readNameservers_congr h, UntypedAddress.childrenOf_congr h,
    readAuthInfo_congr h]

theorem Create.ofElement_congr (h : a.Variant b) : ofElement a = ofElement b := by
  unfold ofElement
  rcases rel_cases (rel_head? h.children) with ⟨ha, hb⟩ | ⟨x, y, ha, hb, hxy⟩
  · rw [ha, hb]
  · simp only [ha, hb, UntypedCreate.ofElement_congr hxy]

theorem Delete.ofElement_congr (h : a.Variant b) : ofElement a = ofElement b := by
  have hbody := h.map_head? (f := fun c =>
      (⟨.ofElement c, c.childText "name", c.childText "id"⟩ : UntypedDelete))
    fun hc => by rw [Namespaces.ofElement_congr hc, hc.childText, hc.childText]
  rw [ofElement, ofElement, hbody]

theorem UntypedInfo.ofElement_congr (h : a.Variant b) : ofElement a = ofElement b := by
  simp only [ofElement, Namespaces.ofElement_congr h, h.childText,
    h.bind_child? fun hc => hc.filledAttr? "hosts", readAuthInfo_congr h]

theorem Info.ofElement_congr (h : a.Variant b) : ofElement a = ofElement b := by
  rw [ofElement, ofElement, h.map_head? UntypedInfo.ofElement_congr]

theorem UntypedSection.childOf_congr (h : a.Variant b) (name : String) :
    childOf a name = childOf b name := by
  unfold childOf
  rcases rel_cases (h.child? name) with ⟨ha, hb⟩ | ⟨x, y, ha, hb, hxy⟩
  · rw [ha, hb]
  · simp only [ha, hb, readNameservers_congr hxy, UntypedContact.childrenOf_congr hxy,
      readStatuses_congr hxy, UntypedAddress.childrenOf_congr hxy]

theorem UntypedChange.ofElement_congr (h : a.Variant b) : ofElement a = ofElement b := by
  simp only [ofElement, h.filledChildText?, h.map_child? PostalInfo.ofElement_congr,
    Phone.childOf_congr h, readAuthInfo_congr h]

theorem UntypedUpdate.ofElement_congr (h : a.Variant b) : ofElement a = ofElement b := by
  simp only [ofElement, Namespaces.ofElement_congr h, h.childText, UntypedSection.childOf_congr h,
    h.map_child? UntypedChange.ofElement_congr]

theorem Update.ofElement_congr (h : a.Variant b) : ofElement a = ofElement b := by
  rw [ofElement, ofElement, h.map_head? UntypedUpdate.ofElement_congr]

theorem UntypedRenew.ofElement_congr (h : a.Variant b) : ofElement a = ofElement b := by
  simp only [ofElement, Period.childOf_congr h, Namespaces.ofElement_congr h, h.childText]

theorem Renew.ofElement_congr (h : a.Variant b) : ofElement a = ofElement b := by
  unfold ofElement
  rcases rel_cases (rel_head? h.children) with ⟨ha, hb⟩ | ⟨x, y, ha, hb, hxy⟩
  · rw [ha, hb]
  · simp only [ha, hb, UntypedRenew.ofElement_congr hxy]

theorem UntypedTransfer.ofElement_congr (h : a.Variant b) : ofElement a = ofElement b := by
  simp only [ofElement, Period.childOf_congr h, Namespaces.ofElement_congr h, h.childText,
    readAuthInfo_congr h]

theorem Transfer.ofElement_congr (h : a.Variant b) : ofElement a = ofElement b := by
  unfold ofElement
  rw [h.attr?]
  rcases rel_cases (rel_head? h.children) with ⟨ha, hb⟩ | ⟨x, y, ha, hb, hxy⟩
  · rw [ha, hb]
  · simp only [ha, hb, UntypedTransfer.ofElement_congr hxy]

/-! ## Extensions -/

theorem Namestore.ofElement_congr (h : a.Variant b) : ofElement a = ofElement b := by
  rw [ofElement, ofElement, h.childTexts]

theorem Sync.ofElement_congr (h : a.Variant b) : ofElement a = ofElement b :=
  h.map_require (fun hc => by rw [hc.text_eq]) "expMonthDay"

theorem RestoreReport.ofElement_congr (h : a.Variant b) : ofElement a = ofElement b := by
  simp only [ofElement, h.childText, h.childTexts]

theorem Restore.ofElement_congr (h : a.Variant b) : ofElement a = ofElement b := by
  refine h.bind_require (fun hc => ?_) "restore"
  rw [hc.attr?, hc.map_child? RestoreReport.ofElement_congr]

theorem GraceStatus.ofElement_congr (h : a.Variant b) : ofElement a = ofElement b := by
  rw [ofElement, ofElement, h.filterMap_childrenNamed fun hc => hc.attr? "s"]

theorem JobsContact.ofElement_congr (h : a.Variant b) : ofElement a = ofElement b := by
  simp only [ofElement, h.childText]

theorem LaunchClaim.ofElement_congr (h : a.Variant b) : ofElement a = ofElement b := by
  simp only [ofElement, h.childText, h.bind_child? fun hc => hc.attr? "exists",
    h.bind_child? fun hc => hc.filledAttr? "validatorID"]

theorem LaunchCheck.ofElement_congr (h : a.Variant b) : ofElement a = ofElement b := by
  rw [ofElement, ofElement, h.childText, h.map_childrenNamed LaunchClaim.ofElement_congr]

namespace DsRecord

theorem ofElement_congr (h : a.Variant b) : ofElement a = ofElement b := by
  simp only [ofElement, h.childText]

theorem childrenOf_congr (h : a.Variant b) : childrenOf a = childrenOf b :=
  mapM_congr_of_forall₂ ofElement_congr (h.childrenNamed "dsData")

theorem inChild_congr (h : a.Variant b) (name : String) : inChild a name = inChild b name := by
  unfold inChild
  rcases rel_cases (h.child? name) with ⟨ha, hb⟩ | ⟨x, y, ha, hb, hxy⟩
  · rw [ha, hb]
  · simp only [ha, hb, childrenOf_congr hxy]

end DsRecord

theorem SecDnsUpdate.ofElement_congr (h : a.Variant b) : ofElement a = ofElement b := by
  simp only [ofElement, DsRecord.inChild_congr h]

theorem SecDnsInfo.ofElement_congr (h : a.Variant b) : ofElement a = ofElement b := by
  rw [ofElement, ofElement, DsRecord.childrenOf_congr h]

theorem declares_congr (h : a.Variant b) (label : String) : a.declares label = b.declares label := by
  rw [declares, declares, h.filledAttr?]

namespace CommandExtension

theorem Slot.of?_congr (h : a.Variant b) : of? a = of? b := by
  simp only [of?, h.localName_eq, declares_congr h]

theorem put_congr (x : CommandExtension) (h : a.Variant b) : x.put a = x.put b := by
  unfold put
  rw [Slot.of?_congr h, Namestore.ofElement_congr h, Sync.ofElement_congr h,
    Restore.ofElement_congr h, SecDnsUpdate.ofElement_congr h]

/-- Typed, an extension has forgotten its elements. -/
theorem typed_congr (h : a.Variant b) : (ofElement a).typed = (ofElement b).typed := by
  have hput (e : Element) : (ofElement e).typed = e.children.foldl put {} := rfl
  rw [hput, hput]
  refine foldl_congr_of_forall₂ ?_ h.children _
  intro x c d hcd
  exact put_congr x hcd

end CommandExtension

namespace ResponseExtension

theorem Slot.of?_congr (h : a.Variant b) : of? a = of? b := by
  simp only [of?, h.localName_eq, declares_congr h]

theorem put_congr (x : ResponseExtension) (h : a.Variant b) : x.put a = x.put b := by
  unfold put
  rw [Slot.of?_congr h, LaunchCheck.ofElement_congr h, Namestore.ofElement_congr h,
    SecDnsInfo.ofElement_congr h, GraceStatus.ofElement_congr h, JobsContact.ofElement_congr h]

theorem typed_congr (h : a.Variant b) : (ofElement a).typed = (ofElement b).typed := by
  have hput (e : Element) : (ofElement e).typed = e.children.foldl put {} := rfl
  rw [hput, hput]
  refine foldl_congr_of_forall₂ ?_ h.children _
  intro x c d hcd
  exact put_congr x hcd

end ResponseExtension

/-! ## Result data -/

theorem UntypedCheckItem.ofElement_congr (h : a.Variant b) : ofElement a = ofElement b := by
  have havailable (field : String) := h.bind_child? (fun hc => hc.attr? "avail") field
  simp only [ofElement, h.childText, h.filledChildText?, havailable]

theorem UntypedChecked.ofElement_congr (h : a.Variant b) : ofElement a = ofElement b := by
  rw [ofElement, ofElement, Namespaces.ofElement_congr h,
    h.map_childrenNamed UntypedCheckItem.ofElement_congr]

theorem UntypedCreated.ofElement_congr (h : a.Variant b) : ofElement a = ofElement b := by
  simp only [ofElement, Namespaces.ofElement_congr h, h.childText]

theorem UntypedData.ofElement_congr (h : a.Variant b) : ofElement a = ofElement b := by
  simp only [ofElement, Namespaces.ofElement_congr h, h.childText, h.childTexts,
    h.filledChildText?, readStatuses_congr h, UntypedContact.childrenOf_congr h,
    readNameservers_congr h, UntypedAddress.childrenOf_congr h, Phone.childOf_congr h,
    h.bind_child? fun hc => hc.filledChildText? "pw", h.map_child? Disclose.ofElement_congr,
    PostalInfo.childrenOf_congr h]

theorem UntypedRenewed.ofElement_congr (h : a.Variant b) : ofElement a = ofElement b := by
  simp only [ofElement, Namespaces.ofElement_congr h, h.childText]

theorem TransferState.ofElement_congr (h : a.Variant b) : ofElement a = ofElement b := by
  simp only [ofElement, h.childText]

theorem UntypedTransferred.ofElement_congr (h : a.Variant b) : ofElement a = ofElement b := by
  simp only [ofElement, Namespaces.ofElement_congr h, h.childText, TransferState.ofElement_congr h]

theorem ResultData.ofElement_congr (h : a.Variant b) : ofElement a = ofElement b := by
  rw [ofElement, ofElement, h.map_child? UntypedChecked.ofElement_congr,
    h.map_child? UntypedCreated.ofElement_congr, h.map_child? UntypedData.ofElement_congr,
    h.map_child? UntypedRenewed.ofElement_congr, h.map_child? UntypedTransferred.ofElement_congr]

/-! ## Responses -/

theorem MessageQueue.ofElement_congr (h : a.Variant b) : ofElement a = ofElement b := by
  simp only [ofElement, h.attr?, h.filledChildText?]

/-- Typed, responses that are read from variants are the same, and so are their faults. -/
theorem Response.typed_congr (h : a.Variant b) :
    (ofElement a).map typed = (ofElement b).map typed := by
  have hextension : ((a.child? "extension").map ResponseExtension.ofElement).map (·.typed) =
      ((b.child? "extension").map ResponseExtension.ofElement).map (·.typed) := by
    rw [Option.map_map, Option.map_map]
    exact h.map_child? ResponseExtension.typed_congr "extension"
  have hids (field : String) := h.map_child? (f := fun c => c.childText field)
    (fun hc => hc.childText field) "trID"
  unfold ofElement
  refine h.map_bind_require (fun hresult => ?_) "result"
  simp only [hresult.attr?, hresult.childText, h.map_child? ResultData.ofElement_congr, hids]
  refine map_bind_congr_right fun code => ?_
  -- the extensions are the only parts that still differ
  rcases rel_cases (h.child? "msgQ") with ⟨ha, hb⟩ | ⟨p, q, ha, hb, hpq⟩
  · rw [ha, hb]
    exact congrArg Except.ok (by simp only [typed, hextension])
  · simp only [ha, hb, MessageQueue.ofElement_congr hpq]
    refine map_bind_congr_right fun queue => ?_
    exact congrArg Except.ok (by simp only [typed, hextension])

/-! ## Messages -/

theorem readChild_congr_variant {α : Type} {read : Element → Reading α} (h : a.Variant b)
    (hread : ∀ {x y : Element}, x.Variant y → read x = read y) (name : String) :
    readChild read a name = readChild read b name := by
  unfold readChild
  rcases rel_cases (h.child? name) with ⟨ha, hb⟩ | ⟨x, y, ha, hb, hxy⟩
  · rw [ha, hb]
  · simp only [ha, hb, hread hxy]

/-- The same for a reader that tells variants apart only as long as what it reads is not typed. -/
theorem typed_readChild_congr {α : Type} {read : Element → Reading α} {typed : α → α}
    (h : a.Variant b)
    (hread : ∀ {x y : Element}, x.Variant y → (read x).map typed = (read y).map typed)
    (name : String) :
    (readChild read a name).map (Option.map typed) =
      (readChild read b name).map (Option.map typed) := by
  unfold readChild
  rcases rel_cases (h.child? name) with ⟨ha, hb⟩ | ⟨x, y, ha, hb, hxy⟩
  · rw [ha, hb]
  · have hmap (r : Reading α) : (r.map some).map (Option.map typed) = (r.map typed).map some := by
      cases r <;> rfl
    simp only [ha, hb, hmap, hread hxy]

theorem Command.typed_congr (h : a.Variant b) :
    (ofElement a).map typed = (ofElement b).map typed := by
  have hextension : ((a.child? "extension").map CommandExtension.ofElement).map (·.typed) =
      ((b.child? "extension").map CommandExtension.ofElement).map (·.typed) := by
    rw [Option.map_map, Option.map_map]
    exact h.map_child? CommandExtension.typed_congr "extension"
  unfold ofElement
  rw [readChild_congr_variant h Create.ofElement_congr,
    readChild_congr_variant h Transfer.ofElement_congr,
    readChild_congr_variant h Renew.ofElement_congr, readChild_congr_variant h Poll.ofElement_congr]
  simp only [h.map_child? Login.ofElement_congr, h.hasChild, h.map_child? Check.ofElement_congr,
    h.map_child? Info.ofElement_congr, h.map_child? Delete.ofElement_congr,
    h.map_child? Update.ofElement_congr, h.childText]
  refine map_bind_congr_right fun create => map_bind_congr_right fun transfer => ?_
  refine map_bind_congr_right fun renew => map_bind_congr_right fun poll => ?_
  exact congrArg Except.ok (by simp only [typed, hextension])

namespace Envelope

theorem typed_congr (h : a.Variant b) : (ofElement a).map typed = (ofElement b).map typed := by
  unfold ofElement
  simp only [h.attr?, h.map_child? Greeting.ofElement_congr, h.map_child? Hello.ofElement_congr]
  refine map_bind_congr (typed_readChild_congr h Command.typed_congr "command") fun c d hcd => ?_
  refine map_bind_congr (typed_readChild_congr h Response.typed_congr "response") fun r q hrq => ?_
  exact congrArg Except.ok (by simp only [typed, hcd, hrq])

/--
**Prefixes do not matter.** Two trees differ in nothing but the prefixes of elements, anywhere in
them, and the order of attributes, no two of which have one local name in an element. Then the
messages that are read from them are the same once they are typed, or both fail with one fault; and
the same holds of two documents whose trees they are, if the root is that of a message.
-/
theorem prefixes_do_not_matter (h : a.Variant b) :
    (ofElement a).map typed = (ofElement b).map typed ∧
      ∀ s t, Element.ofText s = .ok a → Element.ofText t = .ok b → a.localName = "epp" →
        (ofText s).map typed = (ofText t).map typed := by
  refine ⟨typed_congr h, fun s t hs ht hroot => ?_⟩
  have hread {s : String} {e : Element} (he : Element.ofText s = .ok e)
      (hroot : e.localName = "epp") : ofText s = ofElement e := by
    rw [ofText, he]
    exact if_pos hroot
  rw [hread hs hroot, hread ht (h.localName_eq ▸ hroot)]
  exact typed_congr h

/-- A check for a domain, with other prefixes and the attributes of its body in the other order. -/
theorem prefixes_do_not_matter_check :
    let s := "<epp><command><check><domain:check xmlns:domain=\"d\" xsi:schemaLocation=\"l\">" ++
      "<domain:name>A.ORG</domain:name></domain:check></check></command></epp>"
    let t := "<e:epp><command><check><host:check xsi:schemaLocation=\"l\" xmlns:domain=\"d\">" ++
      "<name>A.ORG</name></host:check></check></command></e:epp>"
    (ofText s).map typed = (ofText t).map typed := by
  intro s t
  let body (d n : String) (attrs : List (String × String)) : Element :=
    { name := d, attrs, children := [.leaf n "A.ORG"] }
  let tree (p : String) (body : Element) : Element := .node p [.node "command" [.node "check" [body]]]
  let a := body "domain:check" "domain:name" [("xmlns:domain", "d"), ("xsi:schemaLocation", "l")]
  let b := body "host:check" "name" [("xsi:schemaLocation", "l"), ("xmlns:domain", "d")]
  have hs : Element.ofText s = .ok (tree "epp" a) := by decide +kernel
  have ht : Element.ofText t = .ok (tree "e:epp" b) := by decide +kernel
  have hname : (Element.leaf "domain:name" "A.ORG").Variant (.leaf "name" "A.ORG") :=
    .intro (by decide) .nil .nil rfl .nil
  have hbody : a.Variant b := .intro (by decide) (.swap _ _ _) (by decide) rfl (.cons hname .nil)
  have htree : (tree "epp" a).Variant (tree "e:epp" b) :=
    .intro (by decide) .nil .nil rfl (.cons (.intro rfl .nil .nil rfl
      (.cons (.intro rfl .nil .nil rfl (.cons hbody .nil)) .nil)) .nil)
  exact (prefixes_do_not_matter htree).2 s t hs ht (by decide)

end Envelope

end Provisioning
