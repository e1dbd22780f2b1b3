import Provisioning.Proofs.Message.RequestSize
import Provisioning.Proofs.Server.Admission
import Provisioning.Server.Conversation

/-!
# Replies and the limit of a frame

The limit for what is written is the limit for what is read, but a reply is larger than its request:
the identifier comes back escaped, and what is told of a name takes more than to ask for it. Up to a
thirty-second part of the limit every request has a reply that can be written, whatever its document
(`short_requests_are_answered`). Above that it may not: a check that fits the limit with room to
spare has an answer that does not fit (`many_domains_are_not_answered`), and then nothing is written
and the conversation ends (`ends_at_large_check`).
-/

namespace Provisioning

open Markup Markup.Element Text
open String (utf8ByteSize_append)
open Calendar (Instant)

/-! ## What is told -/

/-- The data of a message, if it is a response that has some. -/
def Envelope.data? (e : Envelope) : Option ResultData := e.response.bind (·.data)

namespace Service

/-- What can be told after a message: which of its names are free, or what is known of an object. -/
inductive Tells (v : Service) (s : Session) (e : Envelope) : ResultData → Prop where
  | checked {c : Command} {k : Check} :
      e.command = some c → c.check = some k → Tells v s e (v.checkData k)
  | described {filter : HostsFilter} {kind : ObjectKind} {name : String} {data : ResultData} :
      v.describe s filter kind name = some data → Tells v s e data

/-- No object in the registry takes more than so many bytes when it is told of. -/
def TellsAtMost (v : Service) (n : Nat) : Prop :=
  ∀ s filter kind name data, v.describe s filter kind name = some data →
    linesSize 2 [data.toElement] ≤ n

/-- Of an empty registry nothing is told. -/
theorem tellsAtMost_of_empty {v : Service} (h : v.registry = {}) (n : Nat) : v.TellsAtMost n := by
  intro s filter kind name data hdata
  cases kind <;> simp [describe, h, Registry.domain?, Registry.host?, Registry.contact?,
    Table.find?] at hdata

variable {v : Service} {now : Instant} {s : Session} {e : Envelope} {data : ResultData}

theorem handleInfo_tells {x : Info} {client : String}
    (h : (v.handleInfo s x client).1.data? = some data) : v.Tells s e data := by
  unfold handleInfo at h
  split at h
  · cases h
  · split at h
    · rename_i told htold
      obtain rfl := Option.some.inj h
      exact .described htold
    · cases h

theorem handleUpdate_tells {x : Update} {client : String} :
    (v.handleUpdate s x client).1.data? = none := by
  unfold handleUpdate
  split
  · rfl
  · split
    · rfl
    · split <;> rfl

/-- A part that is not there is answered without data. -/
theorem handlePart_tells {α : Type} {part : Option α} {client : String}
    {handle : α → String → Reply}
    (h : (handlePart s part client handle).1.data? = some data) :
    ∃ x, part = some x ∧ (handle x client).1.data? = some data := by
  unfold handlePart at h
  split at h
  · exact ⟨_, rfl, h⟩
  · cases h

theorem handleCommand_tells (h : (v.handleCommand now s e).1.data? = some data) :
    v.Tells s e data := by
  unfold handleCommand at h
  dsimp only at h
  split at h
  -- a greeting and a bare code have no data
  · cases h
  · cases h
  · cases h
  · obtain ⟨k, hk, h⟩ := handlePart_tells h
    obtain ⟨c, hc, hk⟩ := Option.bind_eq_some_iff.mp hk
    obtain rfl := Option.some.inj h
    exact .checked hc hk
  · obtain ⟨x, -, h⟩ := handlePart_tells h
    exact handleInfo_tells h
  · obtain ⟨x, -, h⟩ := handlePart_tells h
    rw [handleUpdate_tells] at h
    cases h
  · split at h <;> cases h
  · cases h

/-! ## The size of a reply -/

/-- The identifiers of a server are short. -/
theorem writtenSize_transactionId_le (s : Session) : writtenSize s.transactionId ≤ 270 := by
  have hwritten := writtenSize_le s.transactionId
  have hconnection := utf8ByteSize_toString (n := s.connection.toNat) (k := 20) (by decide)
    (Nat.lt_trans s.connection.toNat_lt (by decide))
  have hsequence := utf8ByteSize_toString (n := s.sequence.toNat) (k := 20) (by decide)
    (Nat.lt_trans s.sequence.toNat_lt (by decide))
  have hmarks : "SRV-".utf8ByteSize = 4 ∧ "-".utf8ByteSize = 1 := ⟨rfl, rfl⟩
  simp only [Session.transactionId, utf8ByteSize_append, hmarks] at *
  omega

theorem size_respond_le (s : Session) (code : ResultCode) (client : String) :
    (s.respond code client).1.toElement.size 0 ≤ 959 + writtenSize client := by
  have hanswer := size_answer_le code client s.transactionId none
  have hid := writtenSize_transactionId_le s
  have hreply : (s.respond code client).1 =
      .ofResponse { Response.ofCode code client s.transactionId with data := none } := rfl
  rw [Option.map_none, Option.toList_none, linesSize_nil] at hanswer
  rw [hreply]
  omega

theorem size_respondWith_le (s : Session) (client : String) (data : ResultData) :
    (s.respondWith client data).1.toElement.size 0 ≤
      959 + writtenSize client + linesSize 2 [data.toElement] := by
  have hanswer := size_answer_le .commandSuccessful client s.transactionId (some data)
  have hid := writtenSize_transactionId_le s
  have hreply : (s.respondWith client data).1 =
      .ofResponse { Response.ofCode .commandSuccessful client s.transactionId with
        data := some data } := rfl
  rw [Option.map_some, Option.toList_some] at hanswer
  rw [hreply]
  omega

theorem size_greeting_le (hid : v.serverId = defaultServerId) (hmenu : v.menu = .standard)
    (hnow : now.isValid = true) : (v.greeting now).toElement.size 0 ≤ 9474 := by
  have hsize := Greeting.size_toElement_le v.serverId now.text
  have hname := writtenSize_le defaultServerId
  have hnameSize : defaultServerId.utf8ByteSize = 15 := rfl
  have hdate := writtenSize_le now.text
  have htext := Instant.utf8ByteSize_text hnow
  rw [hid] at hsize
  rw [greeting, hid, hmenu]
  omega

/-- What is told after a message is bounded by its document and the objects of the registry. -/
theorem linesSize_told_le {root : Element} {n : Nat} (hread : Envelope.ofElement root = .ok e)
    (hobjects : v.TellsAtMost n) (h : v.Tells s e.typed data) :
    linesSize 2 [data.toElement] ≤ 2813 + 25 * root.weight + n := by
  cases h with
  | @checked c k hc hk =>
      obtain ⟨-, hdata⟩ := v.linesSize_checkData k
      have hasked := Envelope.answerSize_le hread hc hk
      omega
  | described hdata =>
      have hobject := hobjects _ _ _ _ _ hdata
      omega

/-- **The size of a reply to a message**, by the tree that it was read from. -/
theorem size_handle_le {root : Element} {n : Nat} (hread : Envelope.ofElement root = .ok e)
    (hid : v.serverId = defaultServerId) (hmenu : v.menu = .standard)
    (hobjects : v.TellsAtMost n) (hnow : now.isValid = true) :
    (v.handle now s (.message e)).1.toElement.size 0 ≤ 9474 + 31 * root.weight + n := by
  have hclient := writtenSize_le (clientId e)
  have hwritten := Envelope.utf8ByteSize_clientId_le hread
  have hstep := handle_step v now s (.message e)
  generalize hreply : v.handle now s (.message e) = reply at hstep
  cases hstep with
  | greeting =>
      have hsize := size_greeting_le hid hmenu hnow
      dsimp only
      omega
  | @told _ data hcommand =>
      have hsize := size_respondWith_le s.received (clientId e) data
      have htold : v.Tells s.received e.typed data := by
        rw [handle_of_waitingForCommand hcommand] at hreply
        exact handleCommand_tells (by rw [hreply]; rfl)
      have hdata := linesSize_told_le hread hobjects htold
      omega
  -- nothing is told: what varies is the identifier of the client
  | idle | noLogin | accepted | refused | shutOut | logout | answered =>
      refine Nat.le_trans (size_respond_le _ _ (clientId e)) ?_
      omega

/-- **The frame of a reply** is at most thirty-one times as long as the request, up to a constant. -/
theorem totalLength_reply_le (payload : List UInt8) {n : Nat} (hid : v.serverId = defaultServerId)
    (hmenu : v.menu = .standard) (hobjects : v.TellsAtMost n) (hnow : now.isValid = true) :
    (Wire.Frame.ofEnvelope (v.handle now s (.ofPayload payload)).1).totalLength ≤
      9533 + 31 * payload.length + n := by
  rw [Wire.totalLength_ofEnvelope]
  unfold Inbound.ofPayload
  split
  · rename_i e he
    obtain ⟨root, hread, hweight⟩ := Envelope.ofBytes_tree he
    have hsize := size_handle_le (s := s) hread hid hmenu hobjects hnow
    omega
  · have hsize := size_respond_le s.received .commandSyntaxError ""
    have hreply : ∀ fault, v.handle now s (.malformed fault) =
        s.received.respond .commandSyntaxError "" := fun _ => rfl
    rw [writtenSize_empty] at hsize
    rw [hreply]
    omega

/-! ## Short requests -/

/--
**Short requests are answered.** A server with its usual name and services, of whose objects nothing
takes more than 20480 bytes, has a reply that can be written to every frame of at most a
thirty-second part of the limit, whatever document it carries and whatever came before it in the
session.
-/
theorem short_requests_are_answered (hid : v.serverId = defaultServerId)
    (hmenu : v.menu = .standard) (hobjects : v.TellsAtMost 20480) (hnow : now.isValid = true)
    (connection : UInt64) (arrivals : List Arrival) {f : Wire.Frame}
    (hf : 32 * f.totalLength ≤ Wire.maxFrameSize) :
    ∃ bytes, Wire.encode
        (v.handle now (v.after (.greeted connection) arrivals) (.ofPayload f.payload)).1 =
      .ok bytes ∧ bytes.length ≤ Wire.maxFrameSize := by
  have hsize := totalLength_reply_le (s := v.after (.greeted connection) arrivals) f.payload hid
    hmenu hobjects hnow
  -- one part of thirty-two is left for the constants: 32768 bytes for 9533 and 20480
  rw [Wire.Frame.totalLength, Wire.headerSize, Wire.maxFrameSize] at hf
  obtain ⟨bytes, hencode⟩ := Wire.encode_of_totalLength (Nat.le_trans hsize
    (by rw [Wire.maxFrameSize]; omega))
  exact ⟨bytes, hencode, Wire.length_encode_le hencode⟩

/-- After a login, a question for one domain. -/
theorem short_requests_are_answered_one_domain :
    let account : Account := ⟨"registrar1", hashPassword "pw1", "REG-1"⟩
    let v : Service := { credentials := ⟨[("registrar1", account)]⟩ }
    let login : Arrival := (⟨0, 0⟩, .message (.ofCommand (.logIn "registrar1" "pw1" "L-1" .standard)))
    let f := Wire.Frame.ofEnvelope (.ofCommand (.checkDomains ["a"] "C-1"))
    32 * f.totalLength ≤ Wire.maxFrameSize ∧
      ∃ bytes, Wire.encode (v.handle ⟨1, 0⟩ (v.after (.greeted 7) [login]) (.ofPayload f.payload)).1 =
        .ok bytes ∧ bytes.length ≤ Wire.maxFrameSize := by
  intro account v login f
  have hf : 32 * f.totalLength ≤ Wire.maxFrameSize := by
    have hsize := Envelope.size_askDomains_le ["A"] "C-1"
    have hwritten : writtenSize "A" = 1 ∧ writtenSize "C-1" = 3 := by decide
    have hask : Envelope.ofCommand (.checkDomains ["a"] "C-1") = .askDomains ["A"] "C-1" := by decide
    have hlength : f.totalLength = 59 + (Envelope.askDomains ["A"] "C-1").toElement.size 0 := by
      rw [← hask]
      exact Wire.totalLength_ofEnvelope _
    simp only [List.map_cons, List.map_nil, List.sum_cons, List.sum_nil, hwritten] at hsize
    rw [Wire.maxFrameSize]
    omega
  exact ⟨hf, short_requests_are_answered rfl rfl (tellsAtMost_of_empty rfl _) (by decide) 7
    [login] hf⟩

/-! ## Large checks -/

/-- **A check whose answer is too large** has no reply that can be written. -/
theorem large_check_is_not_answered (v : Service) (now : Instant) {kind : ObjectKind}
    {c : Command} {k : Check} (hs : s.state = .waitingForCommand)
    (htag : e.typed.tag = .command (.check (some kind))) (hc : e.typed.command = some c)
    (hk : c.check = some k) (hlarge : Wire.maxFrameSize ≤ k.answerSize) :
    ∃ n, Wire.encode (v.handle now s (.message e)).1 =
      .error (.frameTooLarge n Wire.maxFrameSize) := by
  have hreply : (v.handle now s (.message e)).1 = .ofResponse {
      Response.ofCode .commandSuccessful (clientId e.typed) s.transactionId with
      data := some (v.checkData k) } := by
    rw [handle_of_waitingForCommand hs]
    simp only [handleCommand, htag, hc, Option.bind_some, hk, handlePart]
    rfl
  obtain ⟨hdata, -⟩ := v.linesSize_checkData k
  have hanswer := linesSize_le_answer .commandSuccessful (clientId e.typed) s.transactionId
    (v.checkData k)
  rw [hreply]
  refine ⟨_, Wire.encode_of_large ?_⟩
  rw [Wire.totalLength_ofEnvelope]
  omega

end Service

namespace Conversation

/-- What cannot be written ends the conversation, and nothing is sent. -/
theorem sessionStep?_unanswered {v : Service} {l : Limits} {now : Instant} {c : Conversation}
    {inbound : Inbound} {queue : List Inbound} {fault : Fault} (hresult : c.result = none)
    (hs : c.session.state = .waitingForCommand) (hqueue : c.queue = inbound :: queue)
    (hfault : Wire.encode (v.handle now c.session inbound).1 = .error fault) :
    ∃ d, c.sessionStep? v l now = some d ∧ d.sent = c.sent ∧
      d.result = some (.error (.protocol fault)) := by
  have hgoing : c.result.isSome = false := by rw [hresult]; rfl
  simp only [sessionStep?, hgoing, hs, hqueue, write, hfault]
  exact ⟨_, rfl, rfl, rfl⟩

/-- **A check whose answer is too large** ends the conversation, also when more is queued. -/
theorem ends_at_large_check {v : Service} {l : Limits} {now : Instant} {c : Conversation}
    {e : Envelope} {queue : List Inbound} {kind : ObjectKind} {command : Command} {k : Check}
    (hresult : c.result = none) (hs : c.session.state = .waitingForCommand)
    (hqueue : c.queue = .message e :: queue)
    (htag : e.typed.tag = .command (.check (some kind))) (hc : e.typed.command = some command)
    (hk : command.check = some k) (hlarge : Wire.maxFrameSize ≤ k.answerSize) :
    ∃ d n, c.sessionStep? v l now = some d ∧ d.sent = c.sent ∧
      d.result = some (.error (.protocol (.frameTooLarge n Wire.maxFrameSize))) := by
  obtain ⟨n, hfault⟩ := v.large_check_is_not_answered now hs htag hc hk hlarge
  obtain ⟨d, hstep, hsent, hend⟩ := sessionStep?_unanswered hresult hs hqueue hfault
  exact ⟨d, n, hstep, hsent, hend⟩

end Conversation

namespace Wire

/-- A question for domains that fits arrives as it is, if nothing is to be cut off its texts. -/
theorem arriving_askDomains {names : List String} {id : String} (hnames : AreTidy names)
    (hid : IsTidy id)
    (hsize : (Frame.ofEnvelope (.askDomains names id)).totalLength ≤ maxFrameSize) :
    ∃ bytes e, encode (.askDomains names id) = .ok bytes ∧
      (Decoder.extend {} bytes).nextEnvelope = (.ok (some e), {}) ∧
      e.typed = .askDomains names id := by
  have hcheck : ({ domain := some names } : Check).Canonical := by
    constructor <;> simp [hnames]
  have hcommand : ({ check := some { domain := some names }, transactionId := id }
      : Command).Canonical := by
    constructor <;> simp [hcheck, hid]
  have hcanonical : (Envelope.askDomains names id).Canonical := by
    constructor <;> simp [Envelope.askDomains, Envelope.ofCommand, hcommand]
  obtain ⟨bytes, hencode⟩ := encode_of_totalLength hsize
  obtain ⟨e, hnext, htyped⟩ :=
    nextEnvelope_delivered hcanonical.plain hencode (length_encode_le hencode) []
  rw [List.append_nil] at hnext
  exact ⟨bytes, e, hencode, hnext, htyped.trans hcanonical.delivered_eq⟩

end Wire

namespace Service

/--
**A question that fits may have an answer that does not.** Whatever the server and the session that
waits for commands: a question within the limit, for so many domains that the answers are above it,
arrives, and there is no reply to it that can be written.
-/
theorem many_domains_are_not_answered (v : Service) (now : Instant) {s : Session}
    (hs : s.state = .waitingForCommand) {names : List String} {id : String}
    (hnames : AreTidy names) (hid : IsTidy id)
    (hasked : 1459 + writtenSize id + (names.map fun name => 36 + writtenSize name).sum ≤
      Wire.maxFrameSize)
    (hlarge : Wire.maxFrameSize ≤ ObjectKind.domain.answerSize names) :
    ∃ bytes e n, Wire.encode (.askDomains names id) = .ok bytes ∧
      (Wire.Decoder.extend {} bytes).nextEnvelope = (.ok (some e), {}) ∧
      Wire.encode (v.handle now s (.message e)).1 = .error (.frameTooLarge n Wire.maxFrameSize) := by
  have hsize := Envelope.size_askDomains_le names id
  obtain ⟨bytes, e, hencode, hnext, htyped⟩ := Wire.arriving_askDomains hnames hid (by
    rw [Wire.totalLength_ofEnvelope]
    omega)
  have htag : e.typed.tag = .command (.check (some .domain)) := by
    rw [htyped]
    rfl
  have hanswer : Wire.maxFrameSize ≤ ({ domain := some names } : Check).answerSize := by
    simp only [Check.answerSize, Option.getD_some]
    omega
  obtain ⟨n, hreply⟩ := v.large_check_is_not_answered now hs htag
    (congrArg Envelope.command htyped) rfl hanswer
  exact ⟨bytes, e, n, hencode, hnext, hreply⟩

/-- The domains that a client asks for are asked for in upper case. -/
theorem ofCommand_checkDomains {names : List String}
    (h : NamestorePolicy.standard.product? ((names.map upper).headD "") = none) (id : String) :
    Envelope.ofCommand (.checkDomains names id) = .askDomains (names.map upper) id := by
  simp only [Command.checkDomains, Command.withStandardPolicy, Command.withPolicy, h]
  rfl

/-- One domain can be asked for twenty-eight thousand times in one message, but less than half of that
is too much for the reply. -/
theorem one_domain_is_not_answered (v : Service) (now : Instant) {s : Session}
    (hs : s.state = .waitingForCommand) {n : Nat} (hleast : 11782 ≤ n) (hmost : n ≤ 28000) :
    ∃ bytes e size,
      Wire.encode (.ofCommand (.checkDomains (List.replicate n "a") "C-1")) = .ok bytes ∧
      (Wire.Decoder.extend {} bytes).nextEnvelope = (.ok (some e), {}) ∧
      Wire.encode (v.handle now s (.message e)).1 =
        .error (.frameTooLarge size Wire.maxFrameSize) := by
  have hletter : upper "a" = "A" := by decide
  have hupper : (List.replicate n "a").map upper = List.replicate n "A" := by
    rw [List.map_replicate, hletter]
  have hproduct : NamestorePolicy.standard.product? ((List.replicate n "A").headD "") = none := by
    cases n with
    | zero => decide
    | succ n =>
        rw [List.replicate_succ, List.headD_cons]
        decide
  have hask := ofCommand_checkDomains (hupper ▸ hproduct) "C-1"
  have hwritten : writtenSize "A" = 1 ∧ writtenSize "C-1" = 3 := by decide
  have hnames : AreTidy (List.replicate n "A") := fun name hname => by
    rw [List.eq_of_mem_replicate hname]
    decide
  have hid : IsTidy "C-1" := by decide
  -- to ask takes 37 bytes for each time, to answer 89 at least
  have hitem : ObjectKind.domain.itemSize = 89 := rfl
  have hanswer := itemSize_mul_length_le .domain (List.replicate n "A")
  rw [List.length_replicate, hitem] at hanswer
  rw [hask, hupper]
  refine many_domains_are_not_answered v now hs hnames hid ?_ ?_
  · rw [List.map_replicate, List.sum_replicate_nat, hwritten.1, hwritten.2, Wire.maxFrameSize]
    omega
  · rw [Wire.maxFrameSize]
    omega

/-- A client that has logged in asks for one domain twelve thousand times. -/
theorem one_domain_is_not_answered_after_login :
    let account : Account := ⟨"registrar1", hashPassword "pw1", "REG-1"⟩
    let v : Service := { credentials := ⟨[("registrar1", account)]⟩ }
    ∃ s, s = v.after (.greeted 7)
        [(⟨0, 0⟩, .message (.ofCommand (.logIn "registrar1" "pw1" "L-1" .standard)))] ∧
      s.state = .waitingForCommand ∧
      ∃ bytes e size,
        Wire.encode (.ofCommand (.checkDomains (List.replicate 12000 "a") "C-1")) = .ok bytes ∧
        (Wire.Decoder.extend {} bytes).nextEnvelope = (.ok (some e), {}) ∧
        Wire.encode (v.handle ⟨1, 0⟩ s (.message e)).1 =
          .error (.frameTooLarge size Wire.maxFrameSize) := by
  intro account v
  have hfound : v.credentials.authenticate "registrar1" "pw1" = some account := by
    simp [v, account, Credentials.authenticate, Table.find?, Account.accepts]
  have hs := state_after_login hfound 7 ⟨0, 0⟩ "L-1" .standard
  exact ⟨_, rfl, hs, one_domain_is_not_answered v ⟨1, 0⟩ hs (n := 12000) (by decide) (by decide)⟩

end Service

end Provisioning
