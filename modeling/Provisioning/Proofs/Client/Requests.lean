import Provisioning.Client.Connection
import Provisioning.Proofs.Client.Reading
import Provisioning.Proofs.Wire.RoundTrip

/-!
# Requests keep in step

A request writes one message and takes whatever comes next for its reply; nothing is compared. That
this is the reply to the command rests on there being nothing else that could come: a client is *in
step* with its server when no byte is owed to it any more, and then the first frame after a command
is the answer to it (`Stream.Reads.inStep`). A request that is answered, or that fails because the
reply cannot be read, leaves the client in step again. A header that can never begin a frame blocks
the stream, so that nothing is ever read from it again, and after the server has closed nothing is
written any more. Only a request that runs out of time leaves a reply behind that is still to come.
-/

namespace Provisioning

open Markup
open Wire (Frame)

/-! ## Servers that answer -/

/-- The peer answers each of these commands, once and in their order: when it has taken one, it owes
a response with the identifier of the command besides all that it owed before. When the bytes come,
and in which pieces, is open. -/
structure Peer.Answers {σ : Type} (p : Peer σ) (owed : σ → List UInt8) (commands : List Command) :
    Prop where
  answers : ∀ c ∈ commands, ∀ {time bytes s s'}, Wire.encode (.ofCommand c) = .ok bytes →
    p.accept time bytes s = some s' → ∃ r reply, (∀ x ∈ r.extension, x.untyped = []) ∧
      Wire.encode (.ofResponse r) = .ok reply ∧
      trimText r.clientTransactionId = trimText c.transactionId ∧ owed s' = owed s ++ reply
  delivers : p.Delivers owed

namespace Stream

variable {σ : Type} {p : Peer σ} {owed : σ → List UInt8}

/-- Nothing can be read from the stream, whatever comes. -/
def Blocked (s : Stream σ) : Prop := ∃ fault, s.decoder.nextFrame.1 = .error fault

/-- Nothing is owed to the reader, or nothing will be read. -/
def InStep (owed : σ → List UInt8) (s : Stream σ) : Prop := s.ahead owed = [] ∨ s.Blocked

/-- The other side has taken what was written. -/
theorem write_eq_ok {s s' : Stream σ} {e : Envelope} (h : s.write p e = .ok s') :
    ∃ bytes peer, Wire.encode e = .ok bytes ∧ p.accept s.clock bytes s.peer = some peer ∧
      s' = { s with peer, sent := s.sent ++ [e] } := by
  unfold write at h
  cases hencode : Wire.encode e with
  | error fault => rw [hencode] at h; exact absurd h (by simp)
  | ok bytes =>
      rw [hencode] at h
      dsimp only at h
      cases haccept : p.accept s.clock bytes s.peer with
      | none => rw [haccept] at h; exact absurd h (by simp)
      | some peer =>
          rw [haccept] at h
          exact ⟨bytes, peer, rfl, haccept, (Except.ok.inj h).symm⟩

/-- No frame is at the front of a stream that is blocked. -/
theorem Blocked.not_frame {s s' : Stream σ} {f : Frame} (h : s.Blocked)
    (hfits : f.Fits s.decoder.max) : s.ahead owed ≠ f.bytes ++ s'.ahead owed := by
  obtain ⟨fault, hfault⟩ := h
  obtain ⟨hending, -⟩ := Wire.nextFrame_eq_error_iff.mp
    (Wire.Decoder.Later.faulty hfault .now)
  rw [ahead, unread, List.append_assoc]
  exact (hending.append _).not_frame hfits

/-- A frame that is all there is leaves nothing. -/
theorem eq_of_frame_ahead {f g : Frame} {rest : List UInt8} (hf : f.totalLength < 4294967296)
    (hg : g.totalLength < 4294967296) (h : g.bytes = f.bytes ++ rest) : f = g ∧ rest = [] := by
  have hfits : f.Fits (max f.totalLength g.totalLength) := ⟨by omega, hf⟩
  have hfits' : g.Fits (max f.totalLength g.totalLength) := ⟨by omega, hg⟩
  have hsame : f.bytes ++ rest = g.bytes ++ [] := by rw [List.append_nil, h]
  exact Frame.bytes_append_inj hfits hfits' hsame

/-- **Reading where one message is owed** takes that message, or fails; unless it runs out of time or
the other side has closed, the reader is in step after it. -/
theorem Reads.inStep {s s' : Stream σ} {answer : Except ClientFault Envelope} {sent : Envelope}
    {bytes : List UInt8} (h : Reads owed s s' answer) (hencode : Wire.encode sent = .ok bytes)
    (howed : s.ahead owed = bytes ∨ s.Blocked) :
    (answer = .error .timeout ∨ answer = .error .connectionClosed ∨ s'.InStep owed) ∧
      ∀ e, answer = .ok e → s'.InStep owed ∧ ∃ d, Wire.decode bytes = .ok d ∧ e = d.typed := by
  cases h with
  | @frame f hfits hahead =>
      rcases howed with howed | hblocked
      · obtain ⟨hle, hbytes⟩ := Wire.encode_eq_ok_iff.mp hencode
        obtain ⟨rfl, hrest⟩ := eq_of_frame_ahead hfits.2 (Nat.lt_of_le_of_lt hle (by decide))
          (hbytes ▸ howed ▸ hahead)
        refine ⟨.inr (.inr (.inl hrest)), ?_⟩
        intro e he
        rw [Wire.envelope_ofEnvelope, ← Wire.decode_of_encode hencode] at he
        cases hd : Wire.decode bytes with
        | error fault => rw [hd] at he; exact absurd he (by simp [told])
        | ok d =>
            rw [hd] at he
            exact ⟨.inl hrest, d, rfl, (Except.ok.inj he).symm⟩
      · exact absurd hahead (hblocked.not_frame hfits)
  | blocked hsame hfault => exact ⟨.inr (.inr (.inr ⟨_, hfault⟩)), by simp⟩
  | closed => exact ⟨.inr (.inl rfl), by simp⟩
  | late => exact ⟨.inl rfl, by simp⟩

end Stream

namespace Connection

/-! ## Requests -/

section

variable {κ α β : Type}

/-- A call goes on with what the first part of it comes to. -/
theorem call_bind (m : Call κ α) (k : α → Call κ β) (c : κ) :
    (m >>= k) c = match m c with
      | (.ok a, c') => k a c'
      | (.error fault, c') => (.error fault, c') := by
  simp only [bind, ExceptT.bind, ExceptT.mk, StateT.bind, ExceptT.bindCont]
  cases m c with
  | mk result next => cases result <;> rfl

theorem call_pure (a : α) (c : κ) : (pure a : Call κ α) c = (.ok a, c) := rfl

theorem call_throw (fault : ClientFault) (c : κ) :
    (throw fault : Call κ α) c = (.error fault, c) := rfl

theorem call_get (c : κ) : (get : Call κ κ) c = (.ok c, c) := rfl

end

variable {σ : Type} {p : Peer σ}

/-- What an exchange can come to, and the connection after it. -/
inductive Exchanges (p : Peer σ) (c : Connection σ) (e : Envelope) :
    Except ClientFault Envelope → Connection σ → Prop where
  /-- Nothing has been written. -/
  | refused {fault : ClientFault} : Exchanges p c e (.error fault) c
  | failed {s s' : Stream σ} {fault : ClientFault} :
      c.connected = true → c.stream.write p e = .ok s →
      s.read p c.settings.readTimeout = (.error fault, s') →
      Exchanges p c e (.error fault) { c with
        stream := s'
        connected := c.connected && decide (fault ≠ ClientFault.connectionClosed) }
  | replied {s s' : Stream σ} {reply : Envelope} :
      c.connected = true → c.stream.write p e = .ok s →
      s.read p c.settings.readTimeout = (.ok reply, s') →
      Exchanges p c e (.ok reply) { c with stream := s' }

/-- A request that must be open goes on only where the connection is. -/
theorem requireOpen_eq (c : Connection σ) :
    requireOpen c = (if c.isOpen then .ok ⟨⟩ else .error .notConnected, c) := by
  cases h : c.isOpen <;> simp [requireOpen, call_bind, call_get, call_pure, call_throw, h]

theorem send_eq (c : Connection σ) (e : Envelope) (h : c.isOpen = true) :
    send p e c = match c.stream.write p e with
      | .ok s => (.ok ⟨⟩, { c with stream := s })
      | .error fault => (.error fault, c) := by
  simp only [send, call_bind, requireOpen_eq, h, if_true, call_get]
  cases c.stream.write p e <;> rfl

theorem receive_eq (c : Connection σ) (h : c.isOpen = true) :
    receive p c = match c.stream.read p c.settings.readTimeout with
      | (.ok e, s) => (.ok e, { c with stream := s })
      | (.error fault, s) => (.error fault, { c with
          stream := s
          connected := c.connected && decide (fault ≠ ClientFault.connectionClosed) }) := by
  simp only [receive, call_bind, requireOpen_eq, h, if_true, call_get]
  rcases c.stream.read p c.settings.readTimeout with ⟨(fault | e), s⟩ <;> rfl

/-- On an open connection an exchange is a message written and the next one read. -/
theorem exchange_eq {c : Connection σ} (hconnected : c.connected = true) (hopen : c.isOpen = true)
    (e : Envelope) : exchange p e c = match c.stream.write p e with
      | .error fault => (.error fault, c)
      | .ok s => match s.read p c.settings.readTimeout with
        | (.ok reply, s') => (.ok reply, { c with stream := s' })
        | (.error fault, s') => (.error fault, { c with
            stream := s'
            connected := c.connected && decide (fault ≠ ClientFault.connectionClosed) }) := by
  have h : exchange p e c = (send p e >>= fun _ => receive p) c := by
    simp [exchange, call_bind, call_get, hconnected]
  rw [h, call_bind, send_eq c e hopen]
  cases c.stream.write p e with
  | error fault => rfl
  | ok s => exact receive_eq { c with stream := s } hopen

/-- A connection that is given up or closed refuses before anything is written. -/
theorem exchange_refused {c : Connection σ} (e : Envelope)
    (h : c.connected = false ∨ c.isOpen = false) : exchange p e c = (.error .notConnected, c) := by
  cases hconnected : c.connected with
  | false => simp [exchange, call_bind, call_get, call_throw, hconnected]
  | true =>
      have hopen : c.isOpen = false := by simpa [hconnected] using h
      simp [exchange, send, call_bind, call_get, hconnected, requireOpen_eq, hopen]

theorem exchange_exchanges (p : Peer σ) (c : Connection σ) (e : Envelope) :
    Exchanges p c e (exchange p e c).1 (exchange p e c).2 := by
  by_cases hready : c.connected = true ∧ c.isOpen = true
  · obtain ⟨hconnected, hopen⟩ := hready
    rw [exchange_eq hconnected hopen]
    cases hwrite : c.stream.write p e with
    | error fault => exact .refused
    | ok s =>
        dsimp only
        rcases hread : s.read p c.settings.readTimeout with ⟨(fault | reply), s'⟩
        · exact .failed hconnected hwrite hread
        · exact .replied hconnected hwrite hread
  · rw [exchange_refused e (by cases hopen : c.isOpen <;> simp_all)]
    exact .refused

/-- A request makes of the exchange its response. -/
theorem request_eq (c : Connection σ) (e : Envelope) :
    request p e c = match exchange p e c with
      | (.error fault, c') => (.error fault, c')
      | (.ok reply, c') =>
        match reply.response with
        | none => (.error (.unexpectedMessage ("expected response, got " ++ reply.tag.text)), c')
        | some r => (.ok r, { c' with connected := c'.connected && !r.isFatal }) := by
  rw [request, call_bind]
  rcases exchange p e c with ⟨(fault | reply), c'⟩
  · rfl
  · dsimp only
    cases reply.response <;> rfl

/-! ## In step -/

/-- The stream is in step as long as requests are written to it. -/
def InStep (owed : σ → List UInt8) (c : Connection σ) : Prop :=
  c.connected = true → c.stream.InStep owed

/-- **A connection that begins is in step**: of the greeting nothing is left. -/
theorem ofStream_inStep {owed : σ → List UInt8} (hp : p.Delivers owed)
    {settings : ConnectionSettings} {peer : σ} {g : Greeting} {c : Connection σ}
    (hgreeting : Wire.encode (.ofGreeting g) = .ok (owed peer))
    (hc : ofStream p settings peer = .ok c) : c.InStep owed := by
  have hreads := Stream.read_reads hp
    ({ peer, decoder := { max := settings.maxFrameSize } } : Stream σ) settings.readTimeout
  obtain ⟨-, hread⟩ := hreads.inStep hgreeting (.inl rfl)
  unfold ofStream at hc
  dsimp only at hc
  rcases hr : Stream.read p ({ peer, decoder := { max := settings.maxFrameSize } } : Stream σ)
    settings.readTimeout with ⟨(fault | e), s⟩
  · rw [hr] at hc
    exact absurd hc (by simp)
  · rw [hr] at hc hread
    dsimp only at hc
    split at hc
    · intro _
      rw [← Except.ok.inj hc]
      exact (hread e rfl).1
    · exact absurd hc (by simp)

variable {owed : σ → List UInt8} {commands : List Command}

/-- **An exchange keeps in step** unless it runs out of time, and a response that it takes is the one
to its command. -/
theorem Exchanges.inStep (hp : p.Answers owed commands) {c c' : Connection σ} {command : Command}
    (hcommand : command ∈ commands) {result : Except ClientFault Envelope}
    (h : Exchanges p c (.ofCommand command) result c') (hc : c.InStep owed) :
    (result = .error .timeout ∨ c'.InStep owed) ∧ ∀ reply, result = .ok reply →
      c'.stream.InStep owed ∧ ∀ r, reply.response = some r →
        r.clientTransactionId = trimText command.transactionId := by
  -- what was written is answered, and the answer is all that can come, or nothing is read
  have hwritten : ∀ {s : Stream σ}, c.connected = true →
      c.stream.write p (.ofCommand command) = .ok s →
      ∃ r bytes, (∀ x ∈ r.extension, x.untyped = []) ∧
        Wire.encode (.ofResponse r) = .ok bytes ∧
        trimText r.clientTransactionId = trimText command.transactionId ∧
        (s.ahead owed = bytes ∨ s.Blocked) := by
    intro s hconnected hwrite
    obtain ⟨sent, peer, hencode, haccept, rfl⟩ := Stream.write_eq_ok hwrite
    obtain ⟨r, bytes, huntyped, hreply, hid, howed⟩ := hp.answers command hcommand hencode haccept
    refine ⟨r, bytes, huntyped, hreply, hid, ?_⟩
    rcases hc hconnected with hnothing | hblocked
    · left
      rw [Stream.ahead, howed, ← List.append_assoc]
      exact congrArg (· ++ bytes) hnothing
    · exact .inr hblocked
  cases h with
  | refused => exact ⟨.inr hc, by simp⟩
  | @failed s s' fault hconnected hwrite hread =>
      obtain ⟨r, bytes, -, hreply, -, howed⟩ := hwritten hconnected hwrite
      have hreads := s.read_reads hp.delivers c.settings.readTimeout
      rw [hread] at hreads
      refine ⟨?_, by simp⟩
      rcases (hreads.inStep hreply howed).1 with htimeout | hclosed | hstep
      · exact .inl htimeout
      · right
        intro hconnected'
        rw [Except.error.injEq] at hclosed
        exact absurd hconnected' (by simp [hclosed])
      · exact .inr fun _ => hstep
  | @replied s s' reply hconnected hwrite hread =>
      obtain ⟨r, bytes, huntyped, hreply, hid, howed⟩ := hwritten hconnected hwrite
      have hreads := s.read_reads hp.delivers c.settings.readTimeout
      rw [hread] at hreads
      obtain ⟨hstep, d, hdecode, htyped⟩ := (hreads.inStep hreply howed).2 reply rfl
      refine ⟨.inr fun _ => hstep, ?_⟩
      intro e he
      obtain rfl := Except.ok.inj he
      refine ⟨hstep, ?_⟩
      intro q hq
      obtain ⟨d', q', hdecode', hresponse, hq'⟩ := Wire.response_arrives huntyped hreply
      rw [hdecode, Except.ok.injEq] at hdecode'
      subst hdecode' htyped
      simp only [Envelope.typed, hresponse, Option.map_some, Option.some.injEq] at hq
      rw [← hq, ← hid]
      exact hq'

/-- **A request keeps in step** unless it runs out of time. -/
theorem request_inStep (hp : p.Answers owed commands) {c : Connection σ} {command : Command}
    (hcommand : command ∈ commands) (hc : c.InStep owed) :
    ((request p (.ofCommand command) c).1 = .error .timeout ∨
      (request p (.ofCommand command) c).2.InStep owed) ∧
    ∀ r, (request p (.ofCommand command) c).1 = .ok r →
      r.clientTransactionId = trimText command.transactionId := by
  have h := (exchange_exchanges p c (.ofCommand command)).inStep hp hcommand hc
  rw [request_eq]
  rcases hx : exchange p (.ofCommand command) c with ⟨(fault | reply), c'⟩
  · rw [hx] at h
    exact ⟨h.1.imp (fun hlate => congrArg Except.error (Except.error.inj hlate)) id, by simp⟩
  · rw [hx] at h
    obtain ⟨hstep, hid⟩ := h.2 reply rfl
    dsimp only
    cases hr : reply.response with
    | none => exact ⟨.inr fun _ => hstep, by simp⟩
    | some r =>
        refine ⟨.inr fun _ => hstep, ?_⟩
        intro q hq
        rw [← Except.ok.inj hq]
        exact hid r hr

end Connection

end Provisioning
