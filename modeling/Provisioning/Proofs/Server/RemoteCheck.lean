import Mathlib.Data.List.Forall2
import Provisioning.Proofs.Message.Rewriting
import Provisioning.Proofs.Server.Answers
import Provisioning.Proofs.Text.Upper
import Provisioning.Proofs.Wire.RoundTrip

/-!
# A check over the wire

A client asks which names are free. The names go out in upper case, in a document, in a frame; the
service reads them back, looks each one up under its key, and puts what it finds into a reply that
takes the same way back. Nothing on either way drops, joins or reorders the names, whatever their
number, so the client can pair the items of the answer with the names it asked for.

The two halves of the way are `arriving_check` and `arriving_checked`; what is looked up in between
is decided by the key alone (`key_sent`).
-/

namespace Provisioning

open Markup Text
open Calendar (Instant)

/-! ## Names -/

namespace ObjectKind

/-- What is sent of a name: the upper case of a domain's or a host's, and a contact's as it is. -/
def sent (k : ObjectKind) (name : String) : String :=
  match k with
  | .domain => upper name
  | .host => upper name
  | .contact => name

/-- Two names are those of one object: they are the same in any case, and for contacts as they
are. -/
def SameName (k : ObjectKind) (a b : String) : Prop :=
  match k with
  | .domain => lowerAscii a = lowerAscii b
  | .host => lowerAscii a = lowerAscii b
  | .contact => a = b

instance (k : ObjectKind) (a b : String) : Decidable (k.SameName a b) :=
  match k with
  | .domain => inferInstanceAs (Decidable (lowerAscii a = lowerAscii b))
  | .host => inferInstanceAs (Decidable (lowerAscii a = lowerAscii b))
  | .contact => inferInstanceAs (Decidable (a = b))

variable {k : ObjectKind} {a b : String}

/-- **The key of a name that was sent** is the key of just those names that are the same. -/
theorem key_sent (ha : k ≠ .contact → IsAscii a) (hb : k ≠ .contact → IsAscii b) :
    k.key a = k.key (k.sent b) ↔ k.SameName a b := by
  have hkey (ha : IsAscii a) (hb : IsAscii b) :
      upper a = upper (upper b) ↔ lowerAscii a = lowerAscii b := by
    rw [upper_upper]
    exact upper_eq_upper_iff ha hb
  cases k with
  | domain => exact hkey (ha (by simp)) (hb (by simp))
  | host => exact hkey (ha (by simp)) (hb (by simp))
  | contact => exact Iff.rfl

theorem isTidy_sent (ha : k ≠ .contact → IsAscii a) (htidy : IsTidy a) : IsTidy (k.sent a) := by
  cases k with
  | domain => exact isTidy_upper (ha (by simp)) htidy
  | host => exact isTidy_upper (ha (by simp)) htidy
  | contact => exact htidy

end ObjectKind

/-! ## The request -/

/-- The check of names of one kind. -/
def Check.ofKind (k : ObjectKind) (names : List String) : Check :=
  match k with
  | .domain => { domain := some names }
  | .host => { host := some names }
  | .contact => { contact := some names }

theorem Check.kind?_ofKind (k : ObjectKind) (names : List String) :
    (ofKind k names).kind? = some k := by
  cases k <;> rfl

theorem Check.names?_delivered (k : ObjectKind) (names : List String) :
    (ofKind k names).delivered.names? k = some (names.map trimText) := by
  cases k <;> rfl

namespace Command

/-- The command with which a client asks which objects of a kind exist. -/
def checkOf (k : ObjectKind) (names : List String) (id : String) : Command :=
  match k with
  | .domain => checkDomains names id
  | .host => checkHosts names id
  | .contact => checkContacts names id

/-- A policy adds to a command an extension that is typed, and nothing else. -/
theorem withPolicy_eq (c : Command) (policy : NamestorePolicy) (name : String) :
    c.withPolicy policy name = c ∨
      ∃ product, c.withPolicy policy name =
        { c with extension := some { namestore := some ⟨[product]⟩ } } := by
  unfold withPolicy
  split
  · exact .inl rfl
  · rename_i product _
    exact .inr ⟨product, rfl⟩

/-- A check is a command with nothing but the names as they are sent, for the product of the first
one. -/
theorem checkOf_eq (k : ObjectKind) (names : List String) (id : String) :
    ∃ name, checkOf k names id =
      { blank id with check := some (.ofKind k (names.map k.sent)) }.withStandardPolicy name := by
  cases k with
  | domain =>
      have hsent : ObjectKind.domain.sent = upper := rfl
      rw [hsent]
      exact ⟨(names.map upper).headD "", rfl⟩
  | host =>
      have hsent : ObjectKind.host.sent = upper := rfl
      rw [hsent]
      exact ⟨(names.map upper).headD "", rfl⟩
  | contact =>
      have hsent : names.map ObjectKind.contact.sent = names := List.map_id names
      rw [hsent]
      exact ⟨names.headD "", rfl⟩

/-- What a check is: the names as they are sent, the identifier, and no other part. -/
structure IsOnlyCheck (c : Command) (x : Check) (id : String) : Prop where
  check : c.check = some x
  tag : c.tag = .check x.kind?
  plain : c.Plain
  transactionId : c.transactionId = id

theorem isOnlyCheck_checkOf (k : ObjectKind) (names : List String) (id : String) :
    (checkOf k names id).IsOnlyCheck (.ofKind k (names.map k.sent)) id := by
  obtain ⟨name, hname⟩ := checkOf_eq k names id
  rw [hname, withStandardPolicy]
  rcases withPolicy_eq { blank id with check := some (.ofKind k (names.map k.sent)) } .standard name
    with hpolicy | ⟨product, hpolicy⟩
  · rw [hpolicy]
    refine ⟨rfl, rfl, ?_, rfl⟩
    constructor <;> simp [blank]
  · rw [hpolicy]
    refine ⟨rfl, rfl, ?_, rfl⟩
    constructor <;> simp [blank]

end Command

namespace Wire

/-- A check arrives as a check of the names that were sent, in their order, and nothing is left of
its bytes. -/
theorem arriving_check {k : ObjectKind} {names : List String} {id : String} {bytes : List UInt8}
    (htidy : ∀ name ∈ names, IsTidy (k.sent name))
    (hencode : encode (.ofCommand (.checkOf k names id)) = .ok bytes) :
    ∃ e, (Decoder.extend {} bytes).nextEnvelope = (.ok (some e), {}) ∧
      e.IsCheck k (names.map k.sent) ∧ Service.clientId e = trimText id := by
  have hcheck := Command.isOnlyCheck_checkOf k names id
  have hplain : (Envelope.ofCommand (.checkOf k names id)).Plain := by
    refine ⟨?_, by simp [Envelope.ofCommand]⟩
    rintro c ⟨⟩
    exact hcheck.plain
  obtain ⟨e, hnext, htyped⟩ := nextEnvelope_delivered hplain hencode (length_encode_le hencode) []
  rw [List.append_nil] at hnext
  have hsent : (names.map k.sent).map trimText = names.map k.sent :=
    map_trimText fun s hs => by
      obtain ⟨name, hname, rfl⟩ := List.mem_map.mp hs
      exact htidy name hname
  refine ⟨e, hnext, ⟨?_, ?_⟩, ?_⟩
  · have htag : (Command.checkOf k names id).tag = .check (some k) := by
      rw [hcheck.tag, Check.kind?_ofKind]
    rw [htyped, Envelope.tag_delivered, ← htag]
    rfl
  · rw [htyped]
    have hdelivered : (Command.checkOf k names id).delivered.check =
        some (Check.ofKind k (names.map k.sent)).delivered := by
      rw [Command.delivered, hcheck.check, Option.map_some]
    have hcommand : (Envelope.ofCommand (.checkOf k names id)).delivered.command =
        some (Command.checkOf k names id).delivered := rfl
    rw [hcommand, Option.bind_some, hdelivered, Option.bind_some, Check.names?_delivered, hsent]
  · rw [← Service.clientId_typed, htyped]
    have hid : Service.clientId (Envelope.ofCommand (.checkOf k names id)).delivered =
        trimText (Command.checkOf k names id).transactionId := rfl
    rw [hid, hcheck.transactionId]

end Wire

/-! ## The reply -/

theorem ResultData.plain_checked (k : ObjectKind) (items : List CheckItem) :
    (checked k items).Plain := by
  cases k <;> constructor <;> simp [checked, AtMostOne]

theorem ResultData.delivered_checked {items : List CheckItem} (h : ∀ i ∈ items, i.Canonical)
    (k : ObjectKind) : (checked k items).delivered = checked k items := by
  have hitems : items.map (·.delivered) = items := listMap_self fun i hi => (h i hi).delivered_eq
  cases k <;> simp [checked, delivered, hitems]

namespace Wire

/-- The items of an answer arrive as they are, in their order, under their kind only. -/
theorem arriving_checked {s : Session} {client : String} {k : ObjectKind} {items : List CheckItem}
    {bytes : List UInt8} (h : ∀ i ∈ items, i.Canonical)
    (hencode : encode (s.respondWith client (.checked k items)).1 = .ok bytes) :
    ∃ d r, (Decoder.extend {} bytes).nextEnvelope = (.ok (some d), {}) ∧
      d.typed = .ofResponse r ∧ r.code = 1000 ∧ r.clientTransactionId = trimText client ∧
      r.data = some (.checked k items) := by
  have hplain : (s.respondWith client (.checked k items)).1.Plain := by
    refine ⟨by simp [Session.respondWith, Envelope.ofResponse], ?_⟩
    rintro r ⟨⟩
    refine ⟨?_, by simp [Response.withData, Response.ofCode]⟩
    rintro data ⟨⟩
    exact ResultData.plain_checked k items
  obtain ⟨d, hnext, htyped⟩ := nextEnvelope_delivered hplain hencode (length_encode_le hencode) []
  rw [List.append_nil] at hnext
  refine ⟨d, _, hnext, htyped, rfl, rfl, ?_⟩
  exact congrArg some (ResultData.delivered_checked h k)

end Wire

/-! ## There and back -/

namespace Service

/--
**A check over the wire** asks for what it names and is told of each in turn. The registry comes from
a seed, and unless the names are those of contacts, they are ASCII, there and in the check; no name
that is asked for has blanks at its ends. Then a check that fits into a frame is written, and taken
out of its bytes, of which nothing is left. If the reply to it fits into a frame as well, it is
written, taken out of its bytes, and says of the kind that was asked for, and of no other, for each
name in the order in which they were given: the name as it was sent, and that it is taken exactly if
the seed has an object of that name.
-/
theorem check_over_the_wire (v : Service) {seed : Seed} (hv : v.registry = .ofSeed seed)
    (now : Instant) {s : Session} (hs : s.state = .waitingForCommand) {k : ObjectKind}
    {names : List String} (id : String)
    (hseed : k ≠ .contact → ∀ o ∈ seed.objects k, IsAscii o.name)
    (hnames : k ≠ .contact → ∀ name ∈ names, IsAscii name) (htidy : AreTidy names)
    (hrequest : (Wire.Frame.ofEnvelope (.ofCommand (.checkOf k names id))).totalLength ≤
      Wire.maxFrameSize) :
    ∃ request e, Wire.encode (.ofCommand (.checkOf k names id)) = .ok request ∧
      (Wire.Decoder.extend {} request).nextEnvelope = (.ok (some e), {}) ∧
      ((Wire.Frame.ofEnvelope (v.handle now s (.message e)).1).totalLength ≤ Wire.maxFrameSize →
        ∃ answer d r, Wire.encode (v.handle now s (.message e)).1 = .ok answer ∧
          (Wire.Decoder.extend {} answer).nextEnvelope = (.ok (some d), {}) ∧
          d.typed = .ofResponse r ∧ r.code = 1000 ∧
          (IsTidy id → r.clientTransactionId = id) ∧
          ∃ items, r.data = some (.checked k items) ∧
            List.Forall₂ (fun name item => item.value = k.sent name ∧
              (item.available = false ↔ ∃ o ∈ seed.objects k, k.SameName o.name name))
              names items) := by
  have hsent (name : String) (hname : name ∈ names) : IsTidy (k.sent name) :=
    ObjectKind.isTidy_sent (fun hk => hnames hk name hname) (htidy name hname)
  obtain ⟨request, hencode⟩ := Wire.encode_of_totalLength hrequest
  obtain ⟨e, hnext, hcheck, hid⟩ := Wire.arriving_check hsent hencode
  refine ⟨request, e, hencode, hnext, fun hreply => ?_⟩
  obtain ⟨answer, hanswer⟩ := Wire.encode_of_totalLength hreply
  refine ⟨answer, ?_⟩
  rw [handle_check hs hcheck, hv, List.map_map] at hanswer ⊢
  have hitems : ∀ i ∈ names.map ((fun name : String => CheckItem.mk name
      ((Registry.ofSeed seed).object? k name).isNone none) ∘ k.sent), i.Canonical := by
    intro i hi
    obtain ⟨name, hname, rfl⟩ := List.mem_map.mp hi
    exact ⟨hsent name hname, by simp [IsTidyFilled]⟩
  obtain ⟨d, r, hnext, htyped, hcode, hclient, hdata⟩ := Wire.arriving_checked hitems hanswer
  refine ⟨d, r, hanswer, hnext, htyped, hcode, fun htidy => ?_, _, hdata, ?_⟩
  · rw [hclient, hid, trimText_of_isTidy htidy, trimText_of_isTidy htidy]
  · rw [List.forall₂_map_right_iff, List.forall₂_same]
    intro name hname
    refine ⟨rfl, ?_⟩
    -- the keys that are compared are those of names in upper case
    have hsame (o : ObjectRecord) (ho : o ∈ seed.objects k) :
        k.key o.name = k.key (k.sent name) ↔ k.SameName o.name name :=
      ObjectKind.key_sent (fun hk => hseed hk o ho) fun hk => hnames hk name hname
    have htaken : (seed.last? k (k.sent name)).isSome = true ↔ _ := Seed.last?_isSome_iff
    rw [← Registry.object?_ofSeed] at htaken
    simp only [Function.comp_apply, Option.isNone_eq_false_iff, htaken]
    constructor
    · rintro ⟨o, ho, hkey⟩
      exact ⟨o, ho, (hsame o ho).mp hkey⟩
    · rintro ⟨o, ho, hname⟩
      exact ⟨o, ho, (hsame o ho).mpr hname⟩

/-- One host is asked for twice, in two cases, and a free name in between. -/
theorem check_over_the_wire_three_hosts :
    let host : HostRecord := {
      name := "Ns1", history := ⟨"H-1", "REG-1", "REG-1", ⟨0, 0⟩, none, none, none⟩
      statuses := [], linked := false, addresses := [] }
    let seed : Seed := { hosts := [host] }
    let v : Service := { registry := .ofSeed seed }
    let s : Session := { connection := 7, state := .waitingForCommand }
    ∃ request e answer d r x y z,
      Wire.encode (.ofCommand (.checkHosts ["ns1", "b", "NS1"] "ABC-1")) = .ok request ∧
      (Wire.Decoder.extend {} request).nextEnvelope = (.ok (some e), {}) ∧
      Wire.encode (v.handle ⟨0, 0⟩ s (.message e)).1 = .ok answer ∧
      (Wire.Decoder.extend {} answer).nextEnvelope = (.ok (some d), {}) ∧
      d.typed = .ofResponse r ∧ r.code = 1000 ∧ r.clientTransactionId = "ABC-1" ∧
      r.data = some { hostCheck := some [x, y, z] } ∧
      (x.value = "NS1" ∧ x.available = false) ∧ (y.value = "B" ∧ y.available = true) ∧
      (z.value = "NS1" ∧ z.available = false) := by
  intro host seed v s
  have hnames : ∀ name ∈ ["ns1", "b", "NS1"], IsAscii name := by decide
  have htidy : AreTidy ["ns1", "b", "NS1"] := by decide
  have hrequest : (Wire.Frame.ofEnvelope (.ofCommand
      (.checkOf .host ["ns1", "b", "NS1"] "ABC-1"))).totalLength ≤ Wire.maxFrameSize :=
    Wire.totalLength_le (by decide +kernel)
  have hregistry : v.registry = .ofSeed seed := rfl
  obtain ⟨request, e, hencode, hnext, hreply⟩ := check_over_the_wire v hregistry ⟨0, 0⟩
    (s := s) rfl "ABC-1" (fun _ => by decide) (fun _ => hnames) htidy hrequest
  -- what arrives decides the reply, and the reply is short
  have hsize : (Wire.Frame.ofEnvelope (v.handle ⟨0, 0⟩ s (.message e)).1).totalLength ≤
      Wire.maxFrameSize := by
    obtain ⟨e', hnext', hcheck, hid⟩ := Wire.arriving_check
      (fun name hname => ObjectKind.isTidy_sent (fun _ => hnames name hname) (htidy name hname))
      hencode
    rw [hnext] at hnext'
    obtain rfl : e = e' := by simpa using hnext'
    rw [handle_check rfl hcheck, hid]
    exact Wire.totalLength_le (by decide +kernel)
  obtain ⟨answer, d, r, hanswer, hread, htyped, hcode, hclient, items, hdata, hitems⟩ := hreply hsize
  simp only [List.forall₂_cons_left_iff, List.forall₂_nil_left_iff] at hitems
  obtain ⟨x, _, ⟨hx, hxfree⟩, ⟨y, _, ⟨hy, hyfree⟩, ⟨z, _, ⟨hz, hzfree⟩, rfl, rfl⟩, rfl⟩, rfl⟩ := hitems
  have hsent : ObjectKind.host.sent "ns1" = "NS1" ∧ ObjectKind.host.sent "b" = "B" ∧
      ObjectKind.host.sent "NS1" = "NS1" := by decide +kernel
  have hlower : lowerAscii "Ns1" = "ns1" := by decide
  have htaken (name : String) (h : lowerAscii name = "ns1") :
      ∃ o ∈ seed.objects .host, ObjectKind.host.SameName o.name name :=
    ⟨.host host, List.mem_singleton_self _, hlower.trans h.symm⟩
  have hfree : ¬ ∃ o ∈ seed.objects .host, ObjectKind.host.SameName o.name "b" := by decide
  refine ⟨request, e, answer, d, r, x, y, z, hencode, hnext, hanswer, hread, htyped, hcode,
    hclient (by decide), hdata, ⟨hx.trans hsent.1, hxfree.mpr (htaken "ns1" (by decide))⟩,
    ⟨hy.trans hsent.2.1, ?_⟩, ⟨hz.trans hsent.2.2, hzfree.mpr (htaken "NS1" (by decide))⟩⟩
  simpa using mt hyfree.mp hfree

end Service

end Provisioning
