import Provisioning.Proofs.Message.Rewriting

/-!
# Texts and the outline of a message

The outline of a message is all of it but what its texts say: which parts it has, how many items
stand in its rows (`map_emptied_eq_iff`), and its numbers, flags and labels. A part that may be left
out belongs to it, and so does a text that may be left out, unless it is blank. Parts that wait for
typing do not.

A message may have any texts, also such as look like markup: it arrives with the outline that it
had (`texts_keep_outline`). There is one law for every part, `outline_delivered`, and it follows from
those for the parts of that part.
-/

namespace Provisioning

open Markup

/-! ## Texts without what they say -/

/-- What the outline has of a text. -/
def emptied (_ : String) : String := ""

/-- Rows of texts have one outline when they are equally long. -/
theorem map_emptied_eq_iff {ss ts : List String} :
    ss.map emptied = ts.map emptied ↔ ss.length = ts.length := by
  have hlength (ss : List String) : ss.map emptied = List.replicate ss.length "" :=
    List.map_const' ..
  rw [hlength, hlength, List.replicate_left_inj]

section Keeps

variable {α β : Type} {f : α → α} {view : α → β}

/-- What a function keeps of everything it keeps in a row. -/
theorem listMap_keeps (h : ∀ a, view (f a) = view a) (as : List α) :
    (as.map f).map view = as.map view := by
  rw [List.map_map]
  exact List.map_congr_left fun a _ => h a

theorem optionMap_keeps (h : ∀ a, view (f a) = view a) (o : Option α) :
    (o.map f).map view = o.map view := by
  rw [Option.map_map]
  exact Option.map_congr fun a _ => h a

end Keeps

theorem emptied_trimText (s : String) : emptied (trimText s) = emptied s := rfl

theorem map_emptied_trimText (ss : List String) :
    (ss.map trimText).map emptied = ss.map emptied := listMap_keeps emptied_trimText ss

theorem optionMap_emptied_trimText (o : Option String) :
    (o.map trimText).map emptied = o.map emptied := optionMap_keeps emptied_trimText o

theorem filled_filled (o : Option String) : filled (filled o) = filled o := by
  refine filled_of_isFilled fun s hs => ?_
  simpa using (Option.mem_filter_iff.mp hs).2

/-- Nothing more is taken for none when it arrives once more. -/
theorem filledText_filledText (o : Option String) :
    filledText (filledText o) = filledText o := by
  refine filledText_of_isTidyFilled fun s hs => ?_
  obtain ⟨hmem, hne⟩ := Option.mem_filter_iff.mp hs
  obtain ⟨t, -, rfl⟩ := Option.mem_map.mp hmem
  exact ⟨isTidy_trimText t, by simpa using hne⟩

/-! ## Parts of objects -/

namespace HostAddress

def outline (a : HostAddress) : HostAddress := { a with address := emptied a.address }

theorem outline_delivered (a : HostAddress) : a.delivered.outline = a.outline := rfl

end HostAddress

namespace DomainContact

def outline (c : DomainContact) : DomainContact := { c with id := emptied c.id }

theorem outline_delivered (c : DomainContact) : c.delivered.outline = c.outline := rfl

end DomainContact

namespace Address

def outline (a : Address) : Address :=
  { street := a.street.map emptied
    city := emptied a.city
    sp := (filledText a.sp).map emptied
    pc := (filledText a.pc).map emptied
    cc := emptied a.cc }

theorem outline_delivered (a : Address) : a.delivered.outline = a.outline := by
  simp only [outline, delivered, emptied_trimText, map_emptied_trimText, filledText_filledText]

end Address

namespace PostalInfo

def outline (p : PostalInfo) : PostalInfo :=
  { form := emptied p.form
    name := emptied p.name
    org := (filledText p.org).map emptied
    address := p.address.outline }

theorem outline_delivered (p : PostalInfo) : p.delivered.outline = p.outline := by
  simp only [outline, delivered, emptied_trimText, filledText_filledText, Address.outline_delivered]

end PostalInfo

namespace Phone

/-- The extension stands in an attribute, which is not trimmed. -/
def outline (p : Phone) : Phone := ⟨emptied p.number, (filled p.extension).map emptied⟩

theorem outline_delivered (p : Phone) : p.delivered.outline = p.outline := by
  simp only [outline, delivered, emptied_trimText, filled_filled]

end Phone

/-- Nothing is trimmed of what may be disclosed. -/
def Disclose.outline (d : Disclose) : Disclose :=
  { d with
    names := d.names.map emptied
    orgs := d.orgs.map emptied
    addrs := d.addrs.map emptied }

/-! ## Messages of a session -/

namespace ServiceMenu

def outline (m : ServiceMenu) : ServiceMenu :=
  { version := emptied m.version
    language := emptied m.language
    objectUris := m.objectUris.map emptied
    extensionUris := m.extensionUris.map emptied }

theorem outline_delivered (m : ServiceMenu) : m.delivered.outline = m.outline := by
  simp only [outline, delivered, emptied_trimText, map_emptied_trimText]

end ServiceMenu

namespace Greeting

/-- A policy has nothing but texts. -/
def outline (g : Greeting) : Greeting :=
  { serverId := emptied g.serverId
    serverDate := emptied g.serverDate
    menu := g.menu.outline
    policy := {} }

theorem outline_delivered (g : Greeting) : g.delivered.outline = g.outline := by
  simp only [outline, delivered, emptied_trimText, ServiceMenu.outline_delivered]

end Greeting

def Hello.outline (h : Hello) : Hello := ⟨h.xmlns.map emptied⟩

namespace Login

def outline (x : Login) : Login :=
  { clientId := emptied x.clientId
    password := emptied x.password
    newPassword := (filledText x.newPassword).map emptied
    version := emptied x.version
    language := emptied x.language
    objectUris := x.objectUris.map emptied
    extensionUris := x.extensionUris.map emptied }

theorem outline_delivered (x : Login) : x.delivered.outline = x.outline := by
  simp only [outline, delivered, emptied_trimText, map_emptied_trimText, filledText_filledText]

end Login

namespace Poll

def outline (x : Poll) : Poll := { x with messageId := (filled x.messageId).map emptied }

theorem outline_delivered (x : Poll) : x.delivered.outline = x.outline := by
  simp only [outline, delivered, filled_filled]

end Poll

/-! ## Questions about objects -/

namespace Check

def outline (x : Check) : Check :=
  { domain := x.domain.map (·.map emptied)
    host := x.host.map (·.map emptied)
    contact := x.contact.map (·.map emptied) }

theorem outline_delivered (x : Check) : x.delivered.outline = x.outline := by
  simp only [outline, delivered, optionMap_keeps map_emptied_trimText]

end Check

namespace Delete

def outline (x : Delete) : Delete :=
  { domain := x.domain.map emptied
    host := x.host.map emptied
    contact := x.contact.map emptied }

theorem outline_delivered (x : Delete) : x.delivered.outline = x.outline := by
  simp only [outline, delivered, optionMap_emptied_trimText]

end Delete

namespace DomainInfo

def outline (x : DomainInfo) : DomainInfo :=
  { x with name := emptied x.name, authInfo := x.authInfo.map emptied }

theorem outline_delivered (x : DomainInfo) : x.delivered.outline = x.outline := by
  simp only [outline, delivered, emptied_trimText, optionMap_emptied_trimText]

end DomainInfo

namespace HostInfo

def outline (x : HostInfo) : HostInfo := ⟨emptied x.name, x.authInfo.map emptied⟩

theorem outline_delivered (x : HostInfo) : x.delivered.outline = x.outline := by
  simp only [outline, delivered, emptied_trimText, optionMap_emptied_trimText]

end HostInfo

namespace ContactInfo

def outline (x : ContactInfo) : ContactInfo := ⟨emptied x.id, x.authInfo.map emptied⟩

theorem outline_delivered (x : ContactInfo) : x.delivered.outline = x.outline := by
  simp only [outline, delivered, emptied_trimText, optionMap_emptied_trimText]

end ContactInfo

namespace Info

def outline (x : Info) : Info :=
  { domain := x.domain.map (·.outline)
    host := x.host.map (·.outline)
    contact := x.contact.map (·.outline) }

theorem outline_delivered (x : Info) : x.delivered.outline = x.outline := by
  simp only [outline, delivered, optionMap_keeps DomainInfo.outline_delivered,
    optionMap_keeps HostInfo.outline_delivered, optionMap_keeps ContactInfo.outline_delivered]

end Info

namespace DomainRenew

def outline (x : DomainRenew) : DomainRenew :=
  { x with name := emptied x.name, currentExpiry := emptied x.currentExpiry }

theorem outline_delivered (x : DomainRenew) : x.delivered.outline = x.outline := rfl

end DomainRenew

namespace Renew

def outline (x : Renew) : Renew := { domain := x.domain.map (·.outline) }

theorem outline_delivered (x : Renew) : x.delivered.outline = x.outline := by
  simp only [outline, delivered, optionMap_keeps DomainRenew.outline_delivered]

end Renew

namespace DomainTransfer

def outline (x : DomainTransfer) : DomainTransfer :=
  { x with name := emptied x.name, authInfo := x.authInfo.map emptied }

theorem outline_delivered (x : DomainTransfer) : x.delivered.outline = x.outline := by
  simp only [outline, delivered, emptied_trimText, optionMap_emptied_trimText]

end DomainTransfer

namespace ContactTransfer

def outline (x : ContactTransfer) : ContactTransfer := ⟨emptied x.id, x.authInfo.map emptied⟩

theorem outline_delivered (x : ContactTransfer) : x.delivered.outline = x.outline := by
  simp only [outline, delivered, emptied_trimText, optionMap_emptied_trimText]

end ContactTransfer

namespace Transfer

def outline (x : Transfer) : Transfer :=
  { op := x.op
    domain := x.domain.map (·.outline)
    contact := x.contact.map (·.outline) }

theorem outline_delivered (x : Transfer) : x.delivered.outline = x.outline := by
  simp only [outline, delivered, optionMap_keeps DomainTransfer.outline_delivered,
    optionMap_keeps ContactTransfer.outline_delivered]

end Transfer

/-! ## New and changed objects -/

namespace DomainCreate

def outline (x : DomainCreate) : DomainCreate :=
  { name := emptied x.name
    period := x.period
    hosts := x.hosts.map emptied
    registrant := (filledText x.registrant).map emptied
    contacts := x.contacts.map (·.outline)
    authInfo := x.authInfo.map emptied }

theorem outline_delivered (x : DomainCreate) : x.delivered.outline = x.outline := by
  simp only [outline, delivered, emptied_trimText, map_emptied_trimText, optionMap_emptied_trimText,
    filledText_filledText, listMap_keeps DomainContact.outline_delivered]

end DomainCreate

namespace HostCreate

def outline (x : HostCreate) : HostCreate := ⟨emptied x.name, x.addresses.map (·.outline)⟩

theorem outline_delivered (x : HostCreate) : x.delivered.outline = x.outline := by
  simp only [outline, delivered, emptied_trimText, listMap_keeps HostAddress.outline_delivered]

end HostCreate

namespace ContactCreate

def outline (x : ContactCreate) : ContactCreate :=
  { id := emptied x.id
    postalInfo := x.postalInfo.map (·.outline)
    voice := x.voice.outline
    fax := x.fax.outline
    email := emptied x.email
    authInfo := x.authInfo.map emptied }

theorem outline_delivered (x : ContactCreate) : x.delivered.outline = x.outline := by
  simp only [outline, delivered, emptied_trimText, optionMap_emptied_trimText,
    listMap_keeps PostalInfo.outline_delivered, Phone.outline_delivered]

end ContactCreate

namespace Create

def outline (x : Create) : Create :=
  { domain := x.domain.map (·.outline)
    host := x.host.map (·.outline)
    contact := x.contact.map (·.outline) }

theorem outline_delivered (x : Create) : x.delivered.outline = x.outline := by
  simp only [outline, delivered, optionMap_keeps DomainCreate.outline_delivered,
    optionMap_keeps HostCreate.outline_delivered, optionMap_keeps ContactCreate.outline_delivered]

end Create

namespace DomainSection

def outline (s : DomainSection) : DomainSection :=
  { hosts := s.hosts.map emptied
    contacts := s.contacts.map (·.outline)
    statuses := s.statuses.map emptied }

theorem outline_delivered (s : DomainSection) : s.delivered.outline = s.outline := by
  simp only [outline, delivered, map_emptied_trimText,
    listMap_keeps DomainContact.outline_delivered]

end DomainSection

namespace DomainUpdate

def outline (x : DomainUpdate) : DomainUpdate :=
  { name := emptied x.name
    add := x.add.outline
    remove := x.remove.outline
    change := ⟨(filledText x.change.registrant).map emptied, x.change.authInfo.map emptied⟩ }

theorem outline_delivered (x : DomainUpdate) : x.delivered.outline = x.outline := by
  simp only [outline, delivered, emptied_trimText, optionMap_emptied_trimText,
    filledText_filledText, DomainSection.outline_delivered]

end DomainUpdate

namespace HostSection

def outline (s : HostSection) : HostSection :=
  ⟨s.addresses.map (·.outline), s.statuses.map emptied⟩

theorem outline_delivered (s : HostSection) : s.delivered.outline = s.outline := by
  simp only [outline, delivered, listMap_keeps HostAddress.outline_delivered]

end HostSection

namespace HostUpdate

def outline (x : HostUpdate) : HostUpdate :=
  { name := emptied x.name
    add := x.add.outline
    remove := x.remove.outline
    newName := (filledText x.newName).map emptied }

theorem outline_delivered (x : HostUpdate) : x.delivered.outline = x.outline := by
  simp only [outline, delivered, emptied_trimText, filledText_filledText,
    HostSection.outline_delivered]

end HostUpdate

namespace ContactChange

def outline (c : ContactChange) : ContactChange :=
  { postalInfo := c.postalInfo.map (·.outline)
    voice := c.voice.map (·.outline)
    fax := c.fax.map (·.outline)
    email := (filledText c.email).map emptied
    authInfo := c.authInfo.map emptied }

theorem outline_delivered (c : ContactChange) : c.delivered.outline = c.outline := by
  simp only [outline, delivered, optionMap_emptied_trimText, filledText_filledText,
    optionMap_keeps PostalInfo.outline_delivered, optionMap_keeps Phone.outline_delivered]

end ContactChange

namespace ContactUpdate

def outline (x : ContactUpdate) : ContactUpdate :=
  { id := emptied x.id
    addStatuses := x.addStatuses.map emptied
    removeStatuses := x.removeStatuses.map emptied
    change := x.change.outline }

theorem outline_delivered (x : ContactUpdate) : x.delivered.outline = x.outline := by
  simp only [outline, delivered, emptied_trimText, ContactChange.outline_delivered]

end ContactUpdate

namespace Update

def outline (x : Update) : Update :=
  { domain := x.domain.map (·.outline)
    host := x.host.map (·.outline)
    contact := x.contact.map (·.outline) }

theorem outline_delivered (x : Update) : x.delivered.outline = x.outline := by
  simp only [outline, delivered, optionMap_keeps DomainUpdate.outline_delivered,
    optionMap_keeps HostUpdate.outline_delivered, optionMap_keeps ContactUpdate.outline_delivered]

end Update

/-! ## Extensions -/

def Namestore.outline (x : Namestore) : Namestore := ⟨x.products.map emptied⟩

theorem Namestore.outline_delivered (x : Namestore) : x.delivered.outline = x.outline := by
  simp only [outline, delivered, map_emptied_trimText]

def Sync.outline (x : Sync) : Sync := ⟨emptied x.monthDay⟩

theorem Sync.outline_delivered (x : Sync) : x.delivered.outline = x.outline := rfl

namespace RestoreReport

/-- Of a report the number of its statements is left. -/
def outline (r : RestoreReport) : RestoreReport := { statements := r.statements.map emptied }

theorem outline_delivered (r : RestoreReport) : r.delivered.outline = r.outline := by
  simp only [outline, delivered, map_emptied_trimText]

end RestoreReport

namespace Restore

def outline (x : Restore) : Restore := { x with report := x.report.map (·.outline) }

theorem outline_delivered (x : Restore) : x.delivered.outline = x.outline := by
  simp only [outline, delivered, optionMap_keeps RestoreReport.outline_delivered]

end Restore

def GraceStatus.outline (x : GraceStatus) : GraceStatus := ⟨x.statuses.map emptied⟩

namespace JobsContact

def outline (x : JobsContact) : JobsContact :=
  { title := emptied x.title
    website := emptied x.website
    industryType := emptied x.industryType
    isAdminContact := emptied x.isAdminContact
    isAssociationMember := emptied x.isAssociationMember }

theorem outline_delivered (x : JobsContact) : x.delivered.outline = x.outline := rfl

end JobsContact

namespace LaunchClaim

def outline (x : LaunchClaim) : LaunchClaim :=
  { name := emptied x.name
    claimed := x.claimed
    key := emptied x.key
    validator := (filled x.validator).map emptied }

theorem outline_delivered (x : LaunchClaim) : x.delivered.outline = x.outline := by
  simp only [outline, delivered, emptied_trimText, filled_filled]

end LaunchClaim

namespace LaunchCheck

def outline (x : LaunchCheck) : LaunchCheck := ⟨emptied x.phase, x.claims.map (·.outline)⟩

theorem outline_delivered (x : LaunchCheck) : x.delivered.outline = x.outline := by
  simp only [outline, delivered, emptied_trimText, listMap_keeps LaunchClaim.outline_delivered]

end LaunchCheck

def DsRecord.outline (x : DsRecord) : DsRecord := { x with digest := emptied x.digest }

theorem DsRecord.outline_delivered (x : DsRecord) : x.delivered.outline = x.outline := rfl

namespace SecDnsUpdate

def outline (x : SecDnsUpdate) : SecDnsUpdate :=
  ⟨x.remove.map (·.outline), x.add.map (·.outline)⟩

theorem outline_delivered (x : SecDnsUpdate) : x.delivered.outline = x.outline := by
  simp only [outline, delivered, listMap_keeps DsRecord.outline_delivered]

end SecDnsUpdate

namespace SecDnsInfo

def outline (x : SecDnsInfo) : SecDnsInfo := ⟨x.records.map (·.outline)⟩

theorem outline_delivered (x : SecDnsInfo) : x.delivered.outline = x.outline := by
  simp only [outline, delivered, listMap_keeps DsRecord.outline_delivered]

end SecDnsInfo

namespace CommandExtension

def outline (x : CommandExtension) : CommandExtension :=
  { namestore := x.namestore.map (·.outline)
    sync := x.sync.map (·.outline)
    restore := x.restore.map (·.outline)
    secDns := x.secDns.map (·.outline) }

theorem outline_delivered (x : CommandExtension) : x.delivered.outline = x.outline := by
  simp only [outline, delivered, optionMap_keeps Namestore.outline_delivered,
    optionMap_keeps Sync.outline_delivered, optionMap_keeps Restore.outline_delivered,
    optionMap_keeps SecDnsUpdate.outline_delivered]

end CommandExtension

namespace ResponseExtension

def outline (x : ResponseExtension) : ResponseExtension :=
  { launch := x.launch.map (·.outline)
    namestore := x.namestore.map (·.outline)
    secDns := x.secDns.map (·.outline)
    grace := x.grace.map (·.outline)
    jobs := x.jobs.map (·.outline) }

theorem outline_delivered (x : ResponseExtension) : x.delivered.outline = x.outline := by
  simp only [outline, delivered, optionMap_keeps LaunchCheck.outline_delivered,
    optionMap_keeps Namestore.outline_delivered, optionMap_keeps SecDnsInfo.outline_delivered,
    optionMap_keeps JobsContact.outline_delivered]

end ResponseExtension

/-! ## Result data -/

namespace CheckItem

def outline (x : CheckItem) : CheckItem :=
  ⟨emptied x.value, x.available, (filledText x.reason).map emptied⟩

theorem outline_delivered (x : CheckItem) : x.delivered.outline = x.outline := by
  simp only [outline, delivered, emptied_trimText, filledText_filledText]

end CheckItem

/-! What was created, renewed or transferred is told in texts only. -/

def DomainCreated.outline (x : DomainCreated) : DomainCreated :=
  ⟨emptied x.schema, emptied x.name, emptied x.created, emptied x.expires⟩

theorem DomainCreated.outline_delivered (x : DomainCreated) : x.delivered.outline = x.outline := rfl

def HostCreated.outline (x : HostCreated) : HostCreated :=
  ⟨emptied x.schema, emptied x.name, emptied x.created⟩

theorem HostCreated.outline_delivered (x : HostCreated) : x.delivered.outline = x.outline := rfl

def ContactCreated.outline (x : ContactCreated) : ContactCreated :=
  ⟨emptied x.schema, emptied x.id, emptied x.created⟩

theorem ContactCreated.outline_delivered (x : ContactCreated) :
    x.delivered.outline = x.outline := rfl

def DomainRenewed.outline (x : DomainRenewed) : DomainRenewed :=
  ⟨emptied x.schema, emptied x.name, emptied x.expires⟩

theorem DomainRenewed.outline_delivered (x : DomainRenewed) : x.delivered.outline = x.outline := rfl

def TransferState.outline (x : TransferState) : TransferState :=
  ⟨emptied x.status, emptied x.requester, emptied x.requested, emptied x.acting, emptied x.acted⟩

def DomainTransferred.outline (x : DomainTransferred) : DomainTransferred :=
  ⟨emptied x.schema, emptied x.name, x.state.outline, emptied x.expires⟩

theorem DomainTransferred.outline_delivered (x : DomainTransferred) :
    x.delivered.outline = x.outline := rfl

def ContactTransferred.outline (x : ContactTransferred) : ContactTransferred :=
  ⟨emptied x.schema, emptied x.id, x.state.outline⟩

theorem ContactTransferred.outline_delivered (x : ContactTransferred) :
    x.delivered.outline = x.outline := rfl

namespace DomainData

def outline (x : DomainData) : DomainData :=
  { schema := emptied x.schema
    name := emptied x.name
    roid := emptied x.roid
    statuses := x.statuses.map emptied
    registrant := emptied x.registrant
    contacts := x.contacts.map (·.outline)
    nameservers := x.nameservers.map emptied
    hosts := x.hosts.map emptied
    clientId := emptied x.clientId
    creatorId := emptied x.creatorId
    created := emptied x.created
    updaterId := (filledText x.updaterId).map emptied
    updated := (filledText x.updated).map emptied
    expires := emptied x.expires
    transferred := (filledText x.transferred).map emptied
    authInfo := (filledText x.authInfo).map emptied }

theorem outline_delivered (x : DomainData) : x.delivered.outline = x.outline := by
  simp only [outline, delivered, emptied_trimText, map_emptied_trimText, filledText_filledText,
    listMap_keeps DomainContact.outline_delivered]

end DomainData

namespace HostData

def outline (x : HostData) : HostData :=
  { schema := emptied x.schema
    name := emptied x.name
    roid := emptied x.roid
    statuses := x.statuses.map emptied
    addresses := x.addresses.map (·.outline)
    clientId := emptied x.clientId
    creatorId := emptied x.creatorId
    created := emptied x.created
    updaterId := (filledText x.updaterId).map emptied
    updated := (filledText x.updated).map emptied
    transferred := (filledText x.transferred).map emptied }

theorem outline_delivered (x : HostData) : x.delivered.outline = x.outline := by
  simp only [outline, delivered, emptied_trimText, filledText_filledText,
    listMap_keeps HostAddress.outline_delivered]

end HostData

namespace ContactData

def outline (x : ContactData) : ContactData :=
  { schema := emptied x.schema
    id := emptied x.id
    roid := emptied x.roid
    statuses := x.statuses.map emptied
    postalInfo := x.postalInfo.map (·.outline)
    voice := x.voice.outline
    fax := x.fax.outline
    email := emptied x.email
    clientId := emptied x.clientId
    creatorId := emptied x.creatorId
    created := emptied x.created
    updaterId := (filledText x.updaterId).map emptied
    updated := (filledText x.updated).map emptied
    transferred := (filledText x.transferred).map emptied
    authInfo := (filledText x.authInfo).map emptied
    disclose := x.disclose.map (·.outline) }

theorem outline_delivered (x : ContactData) : x.delivered.outline = x.outline := by
  simp only [outline, delivered, emptied_trimText, filledText_filledText,
    listMap_keeps PostalInfo.outline_delivered, Phone.outline_delivered]

end ContactData

namespace ResultData

def outline (x : ResultData) : ResultData :=
  { domainCheck := x.domainCheck.map (·.map (·.outline))
    domainCreate := x.domainCreate.map (·.outline)
    domainInfo := x.domainInfo.map (·.outline)
    domainRenew := x.domainRenew.map (·.outline)
    domainTransfer := x.domainTransfer.map (·.outline)
    hostCheck := x.hostCheck.map (·.map (·.outline))
    hostCreate := x.hostCreate.map (·.outline)
    hostInfo := x.hostInfo.map (·.outline)
    contactCheck := x.contactCheck.map (·.map (·.outline))
    contactCreate := x.contactCreate.map (·.outline)
    contactInfo := x.contactInfo.map (·.outline)
    contactTransfer := x.contactTransfer.map (·.outline) }

/-- The slots are looked at one by one. -/
theorem outline_delivered (x : ResultData) : x.delivered.outline = x.outline := by
  have hchecked (items : Option (List CheckItem)) :
      (items.map (·.map (·.delivered))).map (·.map (·.outline)) = items.map (·.map (·.outline)) :=
    optionMap_keeps (listMap_keeps CheckItem.outline_delivered) items
  simp only [outline, delivered, hchecked, optionMap_keeps DomainCreated.outline_delivered,
    optionMap_keeps DomainData.outline_delivered, optionMap_keeps DomainRenewed.outline_delivered,
    optionMap_keeps DomainTransferred.outline_delivered,
    optionMap_keeps HostCreated.outline_delivered, optionMap_keeps HostData.outline_delivered,
    optionMap_keeps ContactCreated.outline_delivered,
    optionMap_keeps ContactData.outline_delivered,
    optionMap_keeps ContactTransferred.outline_delivered]

end ResultData

/-! ## Messages -/

namespace Command

def outline (c : Command) : Command :=
  { login := c.login.map (·.outline)
    logout := c.logout
    check := c.check.map (·.outline)
    create := c.create.map (·.outline)
    info := c.info.map (·.outline)
    delete := c.delete.map (·.outline)
    update := c.update.map (·.outline)
    transfer := c.transfer.map (·.outline)
    renew := c.renew.map (·.outline)
    poll := c.poll.map (·.outline)
    extension := c.extension.map (·.outline)
    transactionId := emptied c.transactionId }

theorem outline_delivered (c : Command) : c.delivered.outline = c.outline := by
  simp only [outline, delivered, emptied_trimText, optionMap_keeps Login.outline_delivered,
    optionMap_keeps Check.outline_delivered, optionMap_keeps Create.outline_delivered,
    optionMap_keeps Info.outline_delivered, optionMap_keeps Delete.outline_delivered,
    optionMap_keeps Update.outline_delivered, optionMap_keeps Transfer.outline_delivered,
    optionMap_keeps Renew.outline_delivered, optionMap_keeps Poll.outline_delivered,
    optionMap_keeps CommandExtension.outline_delivered]

end Command

namespace MessageQueue

def outline (q : MessageQueue) : MessageQueue :=
  { count := q.count
    id := emptied q.id
    queued := (filledText q.queued).map emptied
    message := (filledText q.message).map emptied }

theorem outline_delivered (q : MessageQueue) : q.delivered.outline = q.outline := by
  simp only [outline, delivered, filledText_filledText]

end MessageQueue

namespace Response

def outline (r : Response) : Response :=
  { code := r.code
    message := emptied r.message
    queue := r.queue.map (·.outline)
    data := r.data.map (·.outline)
    extension := r.extension.map (·.outline)
    clientTransactionId := emptied r.clientTransactionId
    serverTransactionId := emptied r.serverTransactionId }

theorem outline_delivered (r : Response) : r.delivered.outline = r.outline := by
  simp only [outline, delivered, emptied_trimText, optionMap_keeps MessageQueue.outline_delivered,
    optionMap_keeps ResultData.outline_delivered,
    optionMap_keeps ResponseExtension.outline_delivered]

end Response

namespace Envelope

def outline (e : Envelope) : Envelope :=
  { xsi := emptied e.xsi
    schema := emptied e.schema
    command := e.command.map (·.outline)
    greeting := e.greeting.map (·.outline)
    hello := e.hello.map (·.outline)
    response := e.response.map (·.outline) }

theorem outline_delivered (e : Envelope) : e.delivered.outline = e.outline := by
  simp only [outline, delivered, optionMap_keeps Command.outline_delivered,
    optionMap_keeps Greeting.outline_delivered, optionMap_keeps Response.outline_delivered]

/--
**Texts have no say in the outline of a message.** A message in which nothing is ambiguous may have
any texts whatever: its document is accepted, and what is read from it has, when it is typed, the
outline and the tag of the message.
-/
theorem texts_keep_outline {e : Envelope} (h : e.Plain) :
    ∃ d, ofText e.toText = .ok d ∧ d.typed.outline = e.outline ∧ d.typed.tag = e.tag := by
  obtain ⟨d, hread, htyped⟩ := ok_of_map (typed_ofElement h)
  refine ⟨d, ?_, ?_, ?_⟩
  · rw [ofText_toText (wellNamed_toElement h), hread]
  · rw [htyped, outline_delivered]
  · rw [htyped, tag_delivered]

/-- A new domain with texts that look like the markup around them, and with blank ones. -/
theorem texts_keep_outline_markup :
    let domain : DomainCreate := {
      name := "</domain:name><domain:name>b", period := .years 2
      hosts := ["<!--", "", "&lt;x \t", "]]>"], registrant := some "\"><contact/>"
      contacts := [⟨.admin, "\n"⟩, ⟨.tech, "a=\"b"⟩], authInfo := some "" }
    let e := Envelope.ofCommand {
      create := some { domain := some domain }
      extension := some { secDns := some ⟨[], [⟨1, 8, 2, "</epp>"⟩, ⟨1, 8, 2, "\u0000"⟩]⟩ }
      transactionId := "</command><command>" }
    e.Plain ∧
      ∃ d, ofText e.toText = .ok d ∧ d.typed.outline = e.outline ∧ d.typed.tag = e.tag := by
  intro domain e
  have hplain : e.Plain := {
    command := by
      rintro c ⟨⟩
      exact {
        create := by rintro x ⟨⟩; decide
        info := by rintro x ⟨⟩
        delete := by rintro x ⟨⟩
        update := by rintro x ⟨⟩
        transfer := by rintro x ⟨⟩
        extension := by rintro x ⟨⟩; rfl }
    response := by rintro r ⟨⟩ }
  exact ⟨hplain, texts_keep_outline hplain⟩

end Envelope

end Provisioning
