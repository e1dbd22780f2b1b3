import Provisioning.Message.Extension.Overlay
import Provisioning.Proofs.Object.Delivery

/-!
# How extensions arrive

Every extension is read back from the element that it writes, and that element selects the slot of
the extension: its local name and the namespace it declares are those of no other (`put_…`). So the
row of elements that an extension is read as is sorted into the slots it was written from.
-/

namespace Provisioning

open Markup Markup.Element

/-- The name and the attributes of an extension's outermost element are fixed. -/
theorem wellNamed_declaring {name : String} {attrs : List (String × String)}
    {children : List Element} (h : isName name = true ∧ (∀ a ∈ attrs, isName a.1 = true) ∧
      (attrs.map Prod.fst).Nodup) (hchildren : ∀ c ∈ children, c.WellNamed) :
    Element.WellNamed { name, attrs, children } :=
  .intro h.1 h.2.1 h.2.2 hchildren

/-! ## Products, dates and grace periods -/

namespace Namestore

def delivered (x : Namestore) : Namestore := ⟨x.products.map trimText⟩

structure Canonical (x : Namestore) : Prop where
  products : AreTidy x.products

theorem Canonical.delivered_eq {x : Namestore} (h : x.Canonical) : x.delivered = x := by
  rw [delivered, map_trimText h.products]

@[simp] theorem wellNamed_toElement (x : Namestore) : x.toElement.WellNamed :=
  wellNamed_declaring (by decide) (by simp +decide)

@[simp] theorem ofElement_toElement (x : Namestore) :
    ofElement x.toElement.trimmed = x.delivered := by
  have hproduct : Markup.localName "namestoreExt:subProduct" = "subProduct" := by decide
  simp [ofElement, toElement, delivered, hproduct, Function.comp_def]

end Namestore

namespace Sync

def delivered (x : Sync) : Sync := ⟨trimText x.monthDay⟩

structure Canonical (x : Sync) : Prop where
  monthDay : IsTidy x.monthDay

theorem Canonical.delivered_eq {x : Sync} (h : x.Canonical) : x.delivered = x := by
  rw [delivered, trimText_of_isTidy h.monthDay]

@[simp] theorem wellNamed_toElement (x : Sync) : x.toElement.WellNamed :=
  wellNamed_declaring (by decide) (by simp +decide)

@[simp] theorem ofElement_toElement (x : Sync) :
    ofElement x.toElement.trimmed = .ok x.delivered := by
  have hday : Markup.localName "sync:expMonthDay" = "expMonthDay" := by decide
  simp [ofElement, require, toElement, delivered, hday, Except.map]

end Sync

namespace RestoreReport

def delivered (r : RestoreReport) : RestoreReport :=
  { preData := trimText r.preData
    postData := trimText r.postData
    deletedTime := trimText r.deletedTime
    restoredTime := trimText r.restoredTime
    reason := trimText r.reason
    statements := r.statements.map trimText
    other := trimText r.other }

structure Canonical (r : RestoreReport) : Prop where
  preData : IsTidy r.preData
  postData : IsTidy r.postData
  deletedTime : IsTidy r.deletedTime
  restoredTime : IsTidy r.restoredTime
  reason : IsTidy r.reason
  statements : AreTidy r.statements
  other : IsTidy r.other

theorem Canonical.delivered_eq {r : RestoreReport} (h : r.Canonical) : r.delivered = r := by
  rw [delivered, trimText_of_isTidy h.preData, trimText_of_isTidy h.postData,
    trimText_of_isTidy h.deletedTime, trimText_of_isTidy h.restoredTime,
    trimText_of_isTidy h.reason, map_trimText h.statements, trimText_of_isTidy h.other]

theorem localName_toElement (r : RestoreReport) : r.toElement.localName = "report" := by
  simp +decide [toElement]

@[simp] theorem wellNamed_toElement (r : RestoreReport) : r.toElement.WellNamed := by
  simp +decide [toElement, or_imp, forall_and]

@[simp] theorem ofElement_toElement (r : RestoreReport) :
    ofElement r.toElement.trimmed = r.delivered := by
  have hnames : Markup.localName "rgp:preData" = "preData" ∧
      Markup.localName "rgp:postData" = "postData" ∧ Markup.localName "rgp:delTime" = "delTime" ∧
      Markup.localName "rgp:resTime" = "resTime" ∧ Markup.localName "rgp:resReason" = "resReason" ∧
      Markup.localName "rgp:statement" = "statement" ∧ Markup.localName "rgp:other" = "other" := by
    decide
  simp [ofElement, toElement, delivered, hnames, Function.comp_def]

end RestoreReport

@[simp] theorem RestoreOp.ofLabel?_label (op : RestoreOp) : ofLabel? op.label = some op := by
  cases op <;> rfl

namespace Restore

def delivered (x : Restore) : Restore := { x with report := x.report.map (·.delivered) }

structure Canonical (x : Restore) : Prop where
  report : ∀ r ∈ x.report, r.Canonical

theorem Canonical.delivered_eq {x : Restore} (h : x.Canonical) : x.delivered = x := by
  rw [delivered, optionMap_self fun r hr => (h.report r hr).delivered_eq]

@[simp] theorem wellNamed_toElement (x : Restore) : x.toElement.WellNamed := by
  have hrestore : ((Element.node "rgp:restore" (x.report.map (·.toElement)).toList).withAttr "op"
      x.op.label).WellNamed :=
    wellNamed_withAttr (by simp +decide) (by decide) (by simp) _
  exact wellNamed_declaring (by decide) (by simpa using hrestore)

@[simp] theorem ofElement_toElement (x : Restore) :
    ofElement x.toElement.trimmed = .ok x.delivered := by
  have hrestore : Markup.localName "rgp:restore" = "restore" := by decide
  simp [ofElement, require, toElement, delivered, hrestore, RestoreReport.localName_toElement,
    bind, Except.bind, pure, Except.pure, Function.comp_def]

end Restore

namespace GraceStatus

@[simp] theorem wellNamed_toElement (x : GraceStatus) : x.toElement.WellNamed := by
  have hstatus (s : String) : ((Element.node "rgp:rgpStatus" []).withAttr "s" s).WellNamed :=
    wellNamed_withAttr (by simp +decide) (by decide) (by simp) s
  exact wellNamed_declaring (by decide) (by simp [hstatus])

/-- Statuses stand in attributes and arrive as they are. -/
@[simp] theorem ofElement_toElement (x : GraceStatus) : ofElement x.toElement.trimmed = x := by
  have hstatus : Markup.localName "rgp:rgpStatus" = "rgpStatus" := by decide
  simp [ofElement, toElement, hstatus, List.filterMap_map]

end GraceStatus

/-! ## Contacts and claims -/

namespace JobsContact

def delivered (x : JobsContact) : JobsContact :=
  { title := trimText x.title
    website := trimText x.website
    industryType := trimText x.industryType
    isAdminContact := trimText x.isAdminContact
    isAssociationMember := trimText x.isAssociationMember }

structure Canonical (x : JobsContact) : Prop where
  title : IsTidy x.title
  website : IsTidy x.website
  industryType : IsTidy x.industryType
  isAdminContact : IsTidy x.isAdminContact
  isAssociationMember : IsTidy x.isAssociationMember

theorem Canonical.delivered_eq {x : JobsContact} (h : x.Canonical) : x.delivered = x := by
  rw [delivered, trimText_of_isTidy h.title, trimText_of_isTidy h.website,
    trimText_of_isTidy h.industryType, trimText_of_isTidy h.isAdminContact,
    trimText_of_isTidy h.isAssociationMember]

@[simp] theorem wellNamed_toElement (x : JobsContact) : x.toElement.WellNamed :=
  wellNamed_declaring (by decide) (by simp +decide)

@[simp] theorem ofElement_toElement (x : JobsContact) :
    ofElement x.toElement.trimmed = x.delivered := by
  have hnames : Markup.localName "jobsContact:title" = "title" ∧
      Markup.localName "jobsContact:website" = "website" ∧
      Markup.localName "jobsContact:industryType" = "industryType" ∧
      Markup.localName "jobsContact:isAdminContact" = "isAdminContact" ∧
      Markup.localName "jobsContact:isAssociationMember" = "isAssociationMember" := by decide
  simp [ofElement, toElement, delivered, hnames]

end JobsContact

namespace LaunchClaim

def delivered (x : LaunchClaim) : LaunchClaim :=
  { name := trimText x.name
    claimed := x.claimed
    key := trimText x.key
    validator := filled x.validator }

structure Canonical (x : LaunchClaim) : Prop where
  name : IsTidy x.name
  key : IsTidy x.key
  validator : IsFilled x.validator

theorem Canonical.delivered_eq {x : LaunchClaim} (h : x.Canonical) : x.delivered = x := by
  rw [delivered, trimText_of_isTidy h.name, trimText_of_isTidy h.key,
    filled_of_isFilled h.validator]

theorem localName_toElement (x : LaunchClaim) : x.toElement.localName = "cd" := by
  simp +decide [toElement]

@[simp] theorem wellNamed_toElement (x : LaunchClaim) : x.toElement.WellNamed := by
  have hname : ((Element.leaf "launch:name" x.name).withAttr "exists"
      (flagText x.claimed)).WellNamed :=
    wellNamed_withAttr (by simp +decide) (by decide) (by simp) _
  have hkey : ((Element.leaf "launch:claimKey" x.key).withAttr? "validatorID"
      x.validator).WellNamed :=
    wellNamed_withAttr? (by simp +decide) (by decide) (by simp) _
  simp +decide [toElement, hname, hkey]

@[simp] theorem ofElement_toElement (x : LaunchClaim) :
    ofElement x.toElement.trimmed = x.delivered := by
  have hnames : Markup.localName "launch:name" = "name" ∧
      Markup.localName "launch:claimKey" = "claimKey" := by decide
  simp [ofElement, toElement, delivered, hnames]

end LaunchClaim

namespace LaunchCheck

def delivered (x : LaunchCheck) : LaunchCheck :=
  ⟨trimText x.phase, x.claims.map (·.delivered)⟩

structure Canonical (x : LaunchCheck) : Prop where
  phase : IsTidy x.phase
  claims : ∀ c ∈ x.claims, c.Canonical

theorem Canonical.delivered_eq {x : LaunchCheck} (h : x.Canonical) : x.delivered = x := by
  rw [delivered, trimText_of_isTidy h.phase,
    listMap_self fun c hc => (h.claims c hc).delivered_eq]

@[simp] theorem wellNamed_toElement (x : LaunchCheck) : x.toElement.WellNamed :=
  wellNamed_declaring (by decide) (by simp +decide)

@[simp] theorem ofElement_toElement (x : LaunchCheck) :
    ofElement x.toElement.trimmed = x.delivered := by
  have hphase : Markup.localName "launch:phase" = "phase" := by decide
  simp [ofElement, toElement, delivered, hphase, LaunchClaim.localName_toElement,
    Function.comp_def]

end LaunchCheck

/-! ## Signed delegations -/

namespace DsRecord

def delivered (x : DsRecord) : DsRecord := { x with digest := trimText x.digest }

theorem delivered_of_isTidy {x : DsRecord} (h : IsTidy x.digest) : x.delivered = x := by
  rw [delivered, trimText_of_isTidy h]

theorem localName_toElement (x : DsRecord) : x.toElement.localName = "dsData" := by
  simp +decide [toElement]

@[simp] theorem wellNamed_toElement (x : DsRecord) : x.toElement.WellNamed := by
  simp +decide [toElement]

@[simp] theorem ofElement_toElement (x : DsRecord) :
    ofElement x.toElement.trimmed = .ok x.delivered := by
  have hnames : Markup.localName "secDNS:keyTag" = "keyTag" ∧
      Markup.localName "secDNS:alg" = "alg" ∧
      Markup.localName "secDNS:digestType" = "digestType" ∧
      Markup.localName "secDNS:digest" = "digest" := by decide
  simp [ofElement, toElement, delivered, hnames, bind, Except.bind, pure, Except.pure]

/-- Records arrive in their order. -/
theorem mapM_ofElement (records : List DsRecord) :
    (trimmedAll (records.map (·.toElement))).mapM ofElement = .ok (records.map (·.delivered)) := by
  induction records with
  | nil => rfl
  | cons r records ih =>
      rw [List.map_cons, trimmedAll_cons, List.mapM_cons, ih, ofElement_toElement]
      rfl

theorem childrenOf_written {e : Element} {records : List DsRecord}
    (h : e.children = records.map (·.toElement)) :
    childrenOf e.trimmed = .ok (records.map (·.delivered)) := by
  rw [childrenOf, childrenNamed_eq, children_trimmed, named_trimmedAll, h, named_map]
  simp only [localName_toElement, beq_self_eq_true, List.filter_true, mapM_ofElement]

end DsRecord

namespace SecDnsUpdate

def delivered (x : SecDnsUpdate) : SecDnsUpdate :=
  ⟨x.remove.map (·.delivered), x.add.map (·.delivered)⟩

structure Canonical (x : SecDnsUpdate) : Prop where
  remove : ∀ r ∈ x.remove, IsTidy r.digest
  add : ∀ r ∈ x.add, IsTidy r.digest

theorem Canonical.delivered_eq {x : SecDnsUpdate} (h : x.Canonical) : x.delivered = x := by
  rw [delivered, listMap_self fun r hr => DsRecord.delivered_of_isTidy (h.remove r hr),
    listMap_self fun r hr => DsRecord.delivered_of_isTidy (h.add r hr)]

/-- A section as it is written: left out when it is empty. -/
def part (name : String) (records : List DsRecord) : List Element :=
  if records.isEmpty then [] else [.node name (records.map (·.toElement))]

theorem children_toElement (x : SecDnsUpdate) :
    x.toElement.children = part "secDNS:rem" x.remove ++ part "secDNS:add" x.add := rfl

theorem wellNamed_part {name : String} (h : isName name = true) (records : List DsRecord) :
    ∀ c ∈ part name records, c.WellNamed := by
  intro c hc
  cases records with
  | nil => simp [part] at hc
  | cons r records =>
      simp only [part, List.isEmpty_cons, Bool.false_eq_true, if_false, List.mem_singleton] at hc
      rw [hc]
      simp [h]

@[simp] theorem wellNamed_toElement (x : SecDnsUpdate) : x.toElement.WellNamed :=
  wellNamed_declaring (by decide) (List.forall_mem_append.mpr
    ⟨wellNamed_part (by decide) x.remove, wellNamed_part (by decide) x.add⟩)

/-- A section that is left out is read as an empty one. -/
theorem inChild_written {e : Element} {name label : String} {records : List DsRecord}
    (h : named name e.children = part label records) :
    DsRecord.inChild e.trimmed name = .ok (records.map (·.delivered)) := by
  rw [DsRecord.inChild, child?_eq, children_trimmed, named_trimmedAll, h]
  cases records with
  | nil => rfl
  | cons r records => exact DsRecord.childrenOf_written rfl

@[simp] theorem ofElement_toElement (x : SecDnsUpdate) :
    ofElement x.toElement.trimmed = .ok x.delivered := by
  have hrem : Markup.localName "secDNS:rem" = "rem" := by decide
  have hadd : Markup.localName "secDNS:add" = "add" := by decide
  have hremove : named "rem" x.toElement.children = part "secDNS:rem" x.remove := by
    simp [children_toElement, part, hrem, hadd]
  have hadded : named "add" x.toElement.children = part "secDNS:add" x.add := by
    simp [children_toElement, part, hrem, hadd]
  rw [ofElement, inChild_written hremove, inChild_written hadded]
  rfl

end SecDnsUpdate

namespace SecDnsInfo

def delivered (x : SecDnsInfo) : SecDnsInfo := ⟨x.records.map (·.delivered)⟩

structure Canonical (x : SecDnsInfo) : Prop where
  records : ∀ r ∈ x.records, IsTidy r.digest

theorem Canonical.delivered_eq {x : SecDnsInfo} (h : x.Canonical) : x.delivered = x := by
  rw [delivered, listMap_self fun r hr => DsRecord.delivered_of_isTidy (h.records r hr)]

@[simp] theorem wellNamed_toElement (x : SecDnsInfo) : x.toElement.WellNamed :=
  wellNamed_declaring (by decide) (by simp)

@[simp] theorem ofElement_toElement (x : SecDnsInfo) :
    ofElement x.toElement.trimmed = .ok x.delivered := by
  have hrecords : x.toElement.children = x.records.map (·.toElement) := rfl
  rw [ofElement, DsRecord.childrenOf_written hrecords]
  rfl

end SecDnsInfo

/-! ## Slots -/

namespace CommandExtension

def delivered (x : CommandExtension) : CommandExtension :=
  { namestore := x.namestore.map (·.delivered)
    sync := x.sync.map (·.delivered)
    restore := x.restore.map (·.delivered)
    secDns := x.secDns.map (·.delivered) }

structure Canonical (x : CommandExtension) : Prop where
  namestore : ∀ n ∈ x.namestore, n.Canonical
  sync : ∀ s ∈ x.sync, s.Canonical
  restore : ∀ r ∈ x.restore, r.Canonical
  secDns : ∀ u ∈ x.secDns, u.Canonical
  untyped : x.untyped = []

theorem Canonical.delivered_eq {x : CommandExtension} (h : x.Canonical) : x.delivered = x := by
  rw [delivered, optionMap_self fun n hn => (h.namestore n hn).delivered_eq,
    optionMap_self fun s hs => (h.sync s hs).delivered_eq,
    optionMap_self fun r hr => (h.restore r hr).delivered_eq,
    optionMap_self fun u hu => (h.secDns u hu).delivered_eq, ← h.untyped]

/-- The slot is selected by the name and the attributes only. -/
theorem Slot.of?_trimmed (e : Element) :
    Slot.of? e.trimmed = Slot.of? { name := e.name, attrs := e.attrs } := by
  cases e
  rfl

theorem put_namestore (x : CommandExtension) (n : Namestore) :
    x.put n.toElement.trimmed = { x with namestore := some n.delivered } := by
  have hslot : Slot.of? n.toElement.trimmed = some .namestore := by
    rw [Slot.of?_trimmed]
    simp only [Namestore.toElement]
    decide
  simp [put, hslot]

theorem put_sync (x : CommandExtension) (s : Sync) :
    x.put s.toElement.trimmed = { x with sync := some s.delivered } := by
  have hslot : Slot.of? s.toElement.trimmed = some .sync := by
    rw [Slot.of?_trimmed]
    simp only [Sync.toElement]
    decide
  simp [put, hslot, Except.toOption]

theorem put_restore (x : CommandExtension) (r : Restore) :
    x.put r.toElement.trimmed = { x with restore := some r.delivered } := by
  have hslot : Slot.of? r.toElement.trimmed = some .restore := by
    rw [Slot.of?_trimmed]
    simp only [Restore.toElement]
    decide
  simp [put, hslot, Except.toOption]

theorem put_secDns (x : CommandExtension) (u : SecDnsUpdate) :
    x.put u.toElement.trimmed = { x with secDns := some u.delivered } := by
  have hslot : Slot.of? u.toElement.trimmed = some .secDns := by
    rw [Slot.of?_trimmed]
    simp only [SecDnsUpdate.toElement]
    decide
  simp [put, hslot, Except.toOption]

@[simp] theorem localName_toElement (x : CommandExtension) :
    x.toElement.localName = "extension" := by
  simp [toElement]

theorem wellNamed_toElement {x : CommandExtension} (h : x.untyped = []) :
    x.toElement.WellNamed := by
  simp +decide [toElement, or_imp, forall_and, h]

/-- Every element is sorted into the slot from which it was written. -/
theorem typed_ofElement {x : CommandExtension} (h : x.untyped = []) :
    (ofElement x.toElement.trimmed).typed = x.delivered := by
  obtain ⟨namestore, sync, restore, secDns, untyped⟩ := x
  subst h
  -- which elements the row has depends on which slots are filled
  cases namestore <;> cases sync <;> cases restore <;> cases secDns <;>
    simp [typed, ofElement, toElement, delivered, put_namestore, put_sync, put_restore, put_secDns]

end CommandExtension

namespace ResponseExtension

def delivered (x : ResponseExtension) : ResponseExtension :=
  { launch := x.launch.map (·.delivered)
    namestore := x.namestore.map (·.delivered)
    secDns := x.secDns.map (·.delivered)
    grace := x.grace
    jobs := x.jobs.map (·.delivered) }

structure Canonical (x : ResponseExtension) : Prop where
  launch : ∀ l ∈ x.launch, l.Canonical
  namestore : ∀ n ∈ x.namestore, n.Canonical
  secDns : ∀ i ∈ x.secDns, i.Canonical
  jobs : ∀ j ∈ x.jobs, j.Canonical
  untyped : x.untyped = []

theorem Canonical.delivered_eq {x : ResponseExtension} (h : x.Canonical) : x.delivered = x := by
  rw [delivered, optionMap_self fun l hl => (h.launch l hl).delivered_eq,
    optionMap_self fun n hn => (h.namestore n hn).delivered_eq,
    optionMap_self fun i hi => (h.secDns i hi).delivered_eq,
    optionMap_self fun j hj => (h.jobs j hj).delivered_eq, ← h.untyped]

theorem Slot.of?_trimmed (e : Element) :
    Slot.of? e.trimmed = Slot.of? { name := e.name, attrs := e.attrs } := by
  cases e
  rfl

theorem put_launch (x : ResponseExtension) (l : LaunchCheck) :
    x.put l.toElement.trimmed = { x with launch := some l.delivered } := by
  have hslot : Slot.of? l.toElement.trimmed = some .launch := by
    rw [Slot.of?_trimmed]
    simp only [LaunchCheck.toElement]
    decide
  simp [put, hslot]

theorem put_namestore (x : ResponseExtension) (n : Namestore) :
    x.put n.toElement.trimmed = { x with namestore := some n.delivered } := by
  have hslot : Slot.of? n.toElement.trimmed = some .namestore := by
    rw [Slot.of?_trimmed]
    simp only [Namestore.toElement]
    decide
  simp [put, hslot]

theorem put_secDns (x : ResponseExtension) (i : SecDnsInfo) :
    x.put i.toElement.trimmed = { x with secDns := some i.delivered } := by
  have hslot : Slot.of? i.toElement.trimmed = some .secDns := by
    rw [Slot.of?_trimmed]
    simp only [SecDnsInfo.toElement]
    decide
  simp [put, hslot, Except.toOption]

theorem put_grace (x : ResponseExtension) (g : GraceStatus) :
    x.put g.toElement.trimmed = { x with grace := some g } := by
  have hslot : Slot.of? g.toElement.trimmed = some .grace := by
    rw [Slot.of?_trimmed]
    simp only [GraceStatus.toElement]
    decide
  simp [put, hslot]

theorem put_jobs (x : ResponseExtension) (j : JobsContact) :
    x.put j.toElement.trimmed = { x with jobs := some j.delivered } := by
  have hslot : Slot.of? j.toElement.trimmed = some .jobs := by
    rw [Slot.of?_trimmed]
    simp only [JobsContact.toElement]
    decide
  simp [put, hslot]

@[simp] theorem localName_toElement (x : ResponseExtension) :
    x.toElement.localName = "extension" := by
  simp [toElement]

theorem wellNamed_toElement {x : ResponseExtension} (h : x.untyped = []) :
    x.toElement.WellNamed := by
  simp +decide [toElement, or_imp, forall_and, h]

/-- Every element is sorted into the slot from which it was written. -/
theorem typed_ofElement {x : ResponseExtension} (h : x.untyped = []) :
    (ofElement x.toElement.trimmed).typed = x.delivered := by
  obtain ⟨launch, namestore, secDns, grace, jobs, untyped⟩ := x
  subst h
  cases launch <;> cases namestore <;> cases secDns <;> cases grace <;> cases jobs <;>
    simp [typed, ofElement, toElement, delivered, put_launch, put_namestore, put_secDns, put_grace,
      put_jobs]

end ResponseExtension

end Provisioning
