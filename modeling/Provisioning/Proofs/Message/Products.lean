import Provisioning.Message.Compose
import Provisioning.Proofs.Message.Purpose
import Provisioning.Proofs.Text.Upper

/-!
# The product that a command is about

There are two dozen ways to compose a command about an object, and each of them puts names in upper
case, asks the policy for the product and adds its own overlay by itself. They all come to the same:
the command has one body for one kind, the label that decides is looked for in the name as it was
given, and the overlay is there whether or not a label was found (`Order.follows_compose`). The
policy replaces the extension, so an overlay may only be added after it was asked; and the name is
put in upper case twice, which changes nothing.
-/

namespace Provisioning

open Text

/-! ## Policies -/

namespace NamestorePolicy

/-- The product stands in the first entry whose label the name ends in, in upper case. -/
def Decides (p : NamestorePolicy) (name product : String) : Prop :=
  ∃ before label after, p.entries = before ++ (label, product) :: after ∧
    label.toList <:+ (upper name).toList ∧
    ∀ entry ∈ before, ¬ entry.1.toList <:+ (upper name).toList

/-- The name ends in no label, in upper case. -/
def Abstains (p : NamestorePolicy) (name : String) : Prop :=
  ∀ entry ∈ p.entries, ¬ entry.1.toList <:+ (upper name).toList

variable {p : NamestorePolicy} {name product : String}

theorem product?_eq_some_iff : p.product? name = some product ↔ p.Decides name product := by
  simp only [product?, Option.map_eq_some_iff, List.find?_eq_some_iff_append, Decides,
    Bool.not_eq_true', ← Bool.not_eq_true, List.isSuffixOf_iff_suffix]
  constructor
  · rintro ⟨⟨label, _⟩, ⟨hlabel, before, after, hentries, hbefore⟩, rfl⟩
    exact ⟨before, label, after, hentries, hlabel, hbefore⟩
  · rintro ⟨before, label, after, hentries, hlabel, hbefore⟩
    exact ⟨(label, product), ⟨hlabel, before, after, hentries, hbefore⟩, rfl⟩

theorem product?_eq_none_iff : p.product? name = none ↔ p.Abstains name := by
  simp [product?, Abstains]

instance : Decidable (p.Decides name product) := decidable_of_iff _ product?_eq_some_iff

instance : Decidable (p.Abstains name) := decidable_of_iff _ product?_eq_none_iff

/-- A policy always says something. -/
theorem decides_or_abstains (p : NamestorePolicy) (name : String) :
    (∃ product, p.Decides name product) ∨ p.Abstains name := by
  cases hproduct : p.product? name with
  | none => exact .inr (product?_eq_none_iff.mp hproduct)
  | some product => exact .inl ⟨product, product?_eq_some_iff.mp hproduct⟩

/-- The name may be put in upper case before. -/
theorem product?_upper (p : NamestorePolicy) (name : String) :
    p.product? (upper name) = p.product? name := by
  rw [product?, product?, upper_upper]

/-- The product of the first of some names, none of which may be there. -/
theorem product?_headD_map_upper (p : NamestorePolicy) (names : List String) :
    p.product? ((names.map upper).headD "") = p.product? (names.headD "") := by
  cases names with
  | nil => rfl
  | cons name names => exact p.product?_upper name

end NamestorePolicy

/-! ## Extensions for a product -/

/-- The extension for a product, if there is one, and an overlay, if there is one. -/
def CommandExtension.forProduct? (overlay? : Option CommandExtension) :
    Option String → Option CommandExtension
  | some product => some { overlay?.getD {} with namestore := some ⟨[product]⟩ }
  | none => overlay?

/-! ## Commands under a policy -/

namespace Command

variable {p : NamestorePolicy} {name product : String}

/-- The tag does not depend on the extension. -/
theorem tag_withExtension (c : Command) (x : Option CommandExtension) :
    { c with extension := x }.tag = c.tag := rfl

theorem tag_withPolicy (c : Command) (p : NamestorePolicy) (name : String) :
    (c.withPolicy p name).tag = c.tag := by
  unfold withPolicy
  split <;> rfl

theorem withPolicy_of_decides (h : p.Decides name product) (c : Command) :
    c.withPolicy p name = { c with extension := some { namestore := some ⟨[product]⟩ } } := by
  rw [withPolicy, NamestorePolicy.product?_eq_some_iff.mpr h]

theorem withPolicy_of_abstains (h : p.Abstains name) (c : Command) : c.withPolicy p name = c := by
  rw [withPolicy, NamestorePolicy.product?_eq_none_iff.mpr h]

theorem extension_withPolicy {c : Command} (h : c.extension = none) (p : NamestorePolicy)
    (name : String) :
    (c.withPolicy p name).extension =
      CommandExtension.forProduct? none (p.product? name) := by
  unfold withPolicy
  cases p.product? name with
  | none => exact h
  | some product => rfl

/-- The command has the tag, and an extension for the overlay and for the product of the name. -/
structure Follows (c : Command) (t : CommandTag) (overlay? : Option CommandExtension)
    (name : String) : Prop where
  tag : c.tag = t
  extension : c.extension =
    CommandExtension.forProduct? overlay? (NamestorePolicy.standard.product? name)

/-- Asking the policy is all that commands without an extension need. -/
theorem follows_withStandardPolicy {c : Command} (h : c.extension = none) (name : String) :
    (c.withStandardPolicy name).Follows c.tag none name :=
  ⟨tag_withPolicy c _ name, extension_withPolicy h _ name⟩

/-- It may be asked for the name in upper case. -/
theorem follows_withStandardPolicy_upper {c : Command} (h : c.extension = none) (name : String) :
    (c.withStandardPolicy (upper name)).Follows c.tag none name where
  tag := tag_withPolicy c _ _
  extension := by
    rw [withStandardPolicy, extension_withPolicy h, NamestorePolicy.product?_upper]

/-- It may be asked for the first of some names in upper case. -/
theorem follows_withStandardPolicy_headD {c : Command} (h : c.extension = none)
    (names : List String) :
    (c.withStandardPolicy ((names.map upper).headD "")).Follows c.tag none (names.headD "") where
  tag := tag_withPolicy c _ _
  extension := by
    rw [withStandardPolicy, extension_withPolicy h, NamestorePolicy.product?_headD_map_upper]

/-- An extended update has its overlay whether or not there is a product, when what adds the overlay
does not look at the product. -/
theorem follows_extendDomain {extend : CommandExtension → CommandExtension}
    (hextend : ∀ store, extend { namestore := store } = { extend {} with namestore := store })
    (name id : String) :
    (extendDomain name extend id).Follows (.update (some .domain)) (some (extend {})) name := by
  have hupdate : (updateDomain name {} {} {} id).Follows (.update (some .domain)) none name :=
    follows_withStandardPolicy_upper rfl name
  -- The command is named, since its tag would be found by evaluating the policy otherwise.
  refine ⟨(tag_withExtension (updateDomain name {} {} {} id) _).trans hupdate.tag, ?_⟩
  rw [extendDomain, hupdate.extension]
  cases NamestorePolicy.standard.product? name with
  | none => rfl
  | some product => exact congrArg some (hextend (some ⟨[product]⟩))

end Command

/-! ## What a client may order -/

/-- A command about an object, as it is ordered. -/
inductive Order where
  | checkDomains (names : List String)
  | checkHosts (names : List String)
  | checkContacts (ids : List String)
  | createDomain (x : DomainCreate)
  | createHost (x : HostCreate)
  | createContact (x : ContactCreate)
  | deleteDomain (name : String)
  | deleteHost (name : String)
  | deleteContact (contact : String)
  | infoDomain (name password : String) (hosts : HostsFilter)
  | infoHost (name password : String)
  | infoContact (contact password : String)
  | updateDomain (name : String) (add remove : DomainSection) (change : DomainChange)
  | updateHost (name : String) (add remove : HostSection) (newName : Option String)
  | updateContact (contact : String) (addStatuses removeStatuses : List String)
      (change : ContactChange)
  | renewDomain (name currentExpiry : String) (period : Period)
  | transferDomain (op : TransferOp) (name : String)
  | requestDomainTransfer (name : String) (period : Period) (password : String)
  | transferContact (op : TransferOp) (contact : String)
  | requestContactTransfer (contact password : String)
  | syncDomain (name : String) (month day : Nat)
  | requestRestore (name : String)
  | reportRestore (name : String) (report : RestoreReport)
  | signDomain (name : String) (add remove : List DsRecord)

namespace Order

/-- The command that is composed. Only a sync can be refused, for a day that there is not. -/
def compose (id : String) : Order → Reading Command
  | checkDomains names => .ok (.checkDomains names id)
  | checkHosts names => .ok (.checkHosts names id)
  | checkContacts ids => .ok (.checkContacts ids id)
  | createDomain x => .ok (.createDomain x id)
  | createHost x => .ok (.createHost x id)
  | createContact x => .ok (.createContact x id)
  | deleteDomain name => .ok (.deleteDomain name id)
  | deleteHost name => .ok (.deleteHost name id)
  | deleteContact contact => .ok (.deleteContact contact id)
  | infoDomain name password hosts => .ok (.infoDomain name password hosts id)
  | infoHost name password => .ok (.infoHost name password id)
  | infoContact contact password => .ok (.infoContact contact password id)
  | updateDomain name add remove change => .ok (.updateDomain name add remove change id)
  | updateHost name add remove newName => .ok (.updateHost name add remove newName id)
  | updateContact contact addStatuses removeStatuses change =>
      .ok (.updateContact contact addStatuses removeStatuses change id)
  | renewDomain name currentExpiry period => .ok (.renewDomain name currentExpiry period id)
  | transferDomain op name => .ok (.transferDomain op { name } id)
  | requestDomainTransfer name period password =>
      .ok (.transferDomain .request ⟨name, some period, some password⟩ id)
  | transferContact op contact => .ok (.transferContact op { id := contact } id)
  | requestContactTransfer contact password =>
      .ok (.transferContact .request ⟨contact, some password⟩ id)
  | syncDomain name month day => Command.syncDomain name month day id
  | requestRestore name => .ok (.requestRestore name id)
  | reportRestore name report => .ok (.reportRestore name report id)
  | signDomain name add remove => .ok (.signDomain name add remove id)

/-- What the command is to be. -/
def tag : Order → CommandTag
  | checkDomains .. => .check (some .domain)
  | checkHosts .. => .check (some .host)
  | checkContacts .. => .check (some .contact)
  | createDomain .. => .create (some .domain)
  | createHost .. => .create (some .host)
  | createContact .. => .create (some .contact)
  | deleteDomain .. => .delete (some .domain)
  | deleteHost .. => .delete (some .host)
  | deleteContact .. => .delete (some .contact)
  | infoDomain .. => .info (some .domain)
  | infoHost .. => .info (some .host)
  | infoContact .. => .info (some .contact)
  | updateDomain .. | syncDomain .. | requestRestore .. | reportRestore .. | signDomain .. =>
      .update (some .domain)
  | updateHost .. => .update (some .host)
  | updateContact .. => .update (some .contact)
  | renewDomain .. => .renew (some .domain)
  | transferDomain op _ => .transfer (some (.domain, op))
  | requestDomainTransfer .. => .transfer (some (.domain, .request))
  | transferContact op _ => .transfer (some (.contact, op))
  | requestContactTransfer .. => .transfer (some (.contact, .request))

/-- The name that decides on the product, as it is given; of several the first. -/
def name : Order → String
  | checkDomains names | checkHosts names | checkContacts names => names.headD ""
  | createDomain x => x.name
  | createHost x => x.name
  | createContact x => x.id
  | deleteDomain name | deleteHost name | deleteContact name => name
  | infoDomain name _ _ | infoHost name _ | infoContact name _ => name
  | updateDomain name _ _ _ | updateHost name _ _ _ | updateContact name _ _ _ => name
  | renewDomain name _ _ => name
  | transferDomain _ name | requestDomainTransfer name _ _ => name
  | transferContact _ name | requestContactTransfer name _ => name
  | syncDomain name _ _ | requestRestore name | reportRestore name _ | signDomain name _ _ => name

/-- What the command carries beside the product. -/
def overlay? : Order → Option CommandExtension
  | syncDomain _ month day => some { sync := some ⟨Sync.text month day⟩ }
  | requestRestore _ => some { restore := some ⟨.request, none⟩ }
  | reportRestore _ report => some { restore := some ⟨.report, some report⟩ }
  | signDomain _ add remove => some { secDns := some ⟨remove, add⟩ }
  | _ => none

/-- Every order is about objects of one kind. -/
theorem purpose_tag (o : Order) : ∃ v k, o.tag.purpose = .about v k := by
  cases o <;> exact ⟨_, _, rfl⟩

/-- Nothing but a sync to a day that there is not in any year is refused. -/
theorem compose_eq_error_iff {o : Order} {id : String} {f : Fault} :
    o.compose id = .error f ↔ ∃ name month day, o = .syncDomain name month day ∧
      ¬ (Calendar.Date.mk 2000 month day).isValid ∧
      f = .invalidValue "expMonthDay" (Sync.text month day) := by
  cases o with
  | syncDomain name month day =>
    simp only [compose, Command.syncDomain, Sync.ofMonthDay, syncDomain.injEq]
    constructor
    · intro h
      split at h
      · exact nomatch h
      · next hday => exact ⟨name, month, day, ⟨rfl, rfl, rfl⟩, hday, (Except.error.inj h).symm⟩
    · rintro ⟨_, _, _, ⟨rfl, rfl, rfl⟩, hday, rfl⟩
      rw [if_neg hday]
      rfl
  | _ => simp [compose]

/-- **What is composed is what was ordered**, for each order by the way in which it is composed. -/
theorem follows_compose {o : Order} {id : String} {c : Command} (h : o.compose id = .ok c) :
    c.Follows o.tag o.overlay? o.name := by
  cases o with
  -- Extended updates get their overlay after the policy was asked.
  | syncDomain name month day =>
    simp only [compose, Command.syncDomain, Sync.ofMonthDay] at h
    split at h
    · obtain rfl := Except.ok.inj h
      exact Command.follows_extendDomain (fun _ => rfl) name id
    · exact nomatch h
  | requestRestore name =>
    obtain rfl := Except.ok.inj h
    exact Command.follows_extendDomain (fun _ => rfl) name id
  | reportRestore name report =>
    obtain rfl := Except.ok.inj h
    exact Command.follows_extendDomain (fun _ => rfl) name id
  | signDomain name add remove =>
    obtain rfl := Except.ok.inj h
    exact Command.follows_extendDomain (fun _ => rfl) name id
  -- Of several names the first decides.
  | checkDomains names =>
    obtain rfl := Except.ok.inj h
    exact Command.follows_withStandardPolicy_headD rfl names
  | checkHosts names =>
    obtain rfl := Except.ok.inj h
    exact Command.follows_withStandardPolicy_headD rfl names
  -- Contacts are named as they are.
  | checkContacts ids =>
    obtain rfl := Except.ok.inj h
    exact Command.follows_withStandardPolicy rfl (ids.headD "")
  | createContact x =>
    obtain rfl := Except.ok.inj h
    exact Command.follows_withStandardPolicy rfl x.id
  | deleteContact contact =>
    obtain rfl := Except.ok.inj h
    exact Command.follows_withStandardPolicy rfl contact
  | infoContact contact password =>
    obtain rfl := Except.ok.inj h
    exact Command.follows_withStandardPolicy rfl contact
  | updateContact contact addStatuses removeStatuses change =>
    obtain rfl := Except.ok.inj h
    exact Command.follows_withStandardPolicy rfl contact
  | transferContact op contact =>
    obtain rfl := Except.ok.inj h
    exact Command.follows_withStandardPolicy rfl contact
  | requestContactTransfer contact password =>
    obtain rfl := Except.ok.inj h
    exact Command.follows_withStandardPolicy rfl contact
  -- Domains and hosts are named in upper case.
  | createDomain x =>
    obtain rfl := Except.ok.inj h
    exact Command.follows_withStandardPolicy_upper rfl x.name
  | createHost x =>
    obtain rfl := Except.ok.inj h
    exact Command.follows_withStandardPolicy_upper rfl x.name
  | deleteDomain name =>
    obtain rfl := Except.ok.inj h
    exact Command.follows_withStandardPolicy_upper rfl name
  | deleteHost name =>
    obtain rfl := Except.ok.inj h
    exact Command.follows_withStandardPolicy_upper rfl name
  | infoDomain name password hosts =>
    obtain rfl := Except.ok.inj h
    exact Command.follows_withStandardPolicy_upper rfl name
  | infoHost name password =>
    obtain rfl := Except.ok.inj h
    exact Command.follows_withStandardPolicy_upper rfl name
  | updateDomain name add remove change =>
    obtain rfl := Except.ok.inj h
    exact Command.follows_withStandardPolicy_upper rfl name
  | updateHost name add remove newName =>
    obtain rfl := Except.ok.inj h
    exact Command.follows_withStandardPolicy_upper rfl name
  | renewDomain name currentExpiry period =>
    obtain rfl := Except.ok.inj h
    exact Command.follows_withStandardPolicy_upper rfl name
  | transferDomain op name =>
    obtain rfl := Except.ok.inj h
    exact Command.follows_withStandardPolicy_upper rfl name
  | requestDomainTransfer name period password =>
    obtain rfl := Except.ok.inj h
    exact Command.follows_withStandardPolicy_upper rfl name

end Order

/-! ## What every order comes to -/

/-- **Every command follows the policy.** A composed command has the tag of its order, one body, and
that for one kind of objects. Beside the overlay of the order, if it has one, its extension has the
product of the first label that the name ends in, and nothing when there is no such label. Any other
policy, too, puts an extension for the product alone in the place of the one before, or leaves the
command as it is. -/
theorem orders_follow_policy :
    (∀ (o : Order) (id : String) (c : Command), o.compose id = .ok c →
      c.tag = o.tag ∧
      (∃ v k, o.tag.purpose = .about v k ∧ c.verbs = [v] ∧ c.kinds v = [k]) ∧
      (∀ product, NamestorePolicy.standard.Decides o.name product →
        c.extension = some { o.overlay?.getD {} with namestore := some ⟨[product]⟩ }) ∧
      (NamestorePolicy.standard.Abstains o.name → c.extension = o.overlay?)) ∧
    ∀ (p : NamestorePolicy) (c : Command) (name : String),
      (∀ product, p.Decides name product →
        c.withPolicy p name = { c with extension := some { namestore := some ⟨[product]⟩ } }) ∧
      (p.Abstains name → c.withPolicy p name = c) := by
  refine ⟨fun o id c h => ?_, fun p c name => ?_⟩
  · have hfollows := o.follows_compose h
    obtain ⟨v, k, hpurpose⟩ := o.purpose_tag
    have habout : c.purpose = .about v k := by
      rw [← Command.purpose_tag, hfollows.tag, hpurpose]
    refine ⟨hfollows.tag, ⟨v, k, hpurpose, Command.purpose_eq_about.mp habout⟩,
      fun product hdecides => ?_, fun habstains => ?_⟩
    · rw [hfollows.extension, NamestorePolicy.product?_eq_some_iff.mpr hdecides]
      rfl
    · rw [hfollows.extension, NamestorePolicy.product?_eq_none_iff.mpr habstains]
      rfl
  · exact ⟨fun _ hdecides => Command.withPolicy_of_decides hdecides c,
      fun habstains => Command.withPolicy_of_abstains habstains c⟩

/-- The end of a registration under `.NET` is moved to the leap day, a delegation under `.ORG` is
signed, and a policy of two labels goes by the first one. -/
theorem orders_follow_policy_leap_day :
    (∃ c, (Order.syncDomain "ExAmple.net" 2 29).compose "T-1" = .ok c ∧
      c.tag = .update (some .domain) ∧
      c.extension = some { namestore := some ⟨["dotNET"]⟩, sync := some ⟨"--02-29"⟩ }) ∧
    (∃ c, (Order.signDomain "example.org" [] []).compose "T-2" = .ok c ∧
      c.extension = some { secDns := some ⟨[], []⟩ }) ∧
    ∀ c : Command, c.withPolicy ⟨[(".EXAMPLE.TV", "dotTVsub"), (".TV", "dotTV")]⟩ "a.example.tv" =
      { c with extension := some { namestore := some ⟨["dotTVsub"]⟩ } } := by
  have hleap : (Order.syncDomain "ExAmple.net" 2 29).compose "T-1" =
      .ok (.extendDomain "ExAmple.net" (fun x => { x with sync := some ⟨"--02-29"⟩ }) "T-1") := by
    rfl
  have hnet : NamestorePolicy.standard.Decides "ExAmple.net" "dotNET" := by decide
  have horg : NamestorePolicy.standard.Abstains "example.org" := by decide
  have htv : NamestorePolicy.Decides ⟨[(".EXAMPLE.TV", "dotTVsub"), (".TV", "dotTV")]⟩
      "a.example.tv" "dotTVsub" := by decide
  obtain ⟨horders, hpolicies⟩ := orders_follow_policy
  obtain ⟨htag, -, hproduct, -⟩ := horders _ _ _ hleap
  obtain ⟨-, -, -, hoverlay⟩ := horders (.signDomain "example.org" [] []) "T-2" _ rfl
  exact ⟨⟨_, hleap, htag, hproduct "dotNET" hnet⟩, ⟨_, rfl, hoverlay horg⟩,
    fun c => (hpolicies _ c _).1 "dotTVsub" htv⟩

end Provisioning
