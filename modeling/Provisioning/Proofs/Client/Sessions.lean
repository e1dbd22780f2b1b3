import Provisioning.Client.Client
import Provisioning.Proofs.Client.Requests

/-!
# Calls that need the session

An exchange looks at the connection before it writes: the session must be known to go on, and the
stream must be open. Whatever rests on an exchange therefore refuses where the session is over, and
leaves the connection as it was. What ends the session while such a call is under way is remembered:
that the server has gone, and a response with a code that ends it, also where the call makes a fault
of that response.

`NeedsSession` says this of a call. It is proved once for an exchange and for a request, and kept by
what is done before them (`NeedsSession.prepared`) and by what is made of their answer
(`NeedsSession.answered`).
-/

namespace Provisioning

namespace Stream

variable {σ : Type} {p : Peer σ} {s : Stream σ} {fault : ClientFault}

theorem write_fault {e : Envelope} (h : s.write p e = .error fault) :
    (∃ f, fault = .protocol f) ∨ ∃ f, fault = .transport f := by
  unfold write at h
  split at h
  · exact .inl ⟨_, (Except.error.inj h).symm⟩
  · split at h
    · exact .inr ⟨_, (Except.error.inj h).symm⟩
    · exact absurd h (by simp)

/-- A reader is told of what it has read, of the time, or that the other side has closed. -/
theorem read_fault {patience : Nat} (h : (s.read p patience).1 = .error fault) :
    (∃ f, fault = .protocol f) ∨ fault = .timeout ∨ fault = .connectionClosed := by
  have hgiveUp : ∀ (s : Stream σ) (deadline : Nat),
      (s.giveUp deadline).1 = .timeout ∨ (s.giveUp deadline).1 = .connectionClosed := by
    intro s deadline
    unfold giveUp
    split
    · split <;> simp
    · simp
  have hanswer : ∀ r : Reading Envelope, told r = .error fault → ∃ f, fault = .protocol f := by
    rintro (f | e) h
    · exact ⟨f, (Except.error.inj h).symm⟩
    · exact absurd h (by simp [told])
  unfold read at h
  dsimp only at h
  split at h
  · exact .inl (hanswer _ h)
  · split at h
    · exact .inl (hanswer _ h)
    · right
      rw [← Except.error.inj h]
      exact hgiveUp _ _

end Stream

namespace Connection

/-- The session is known to be over, or the client has closed. -/
def Over {σ : Type} (c : Connection σ) : Prop := c.connected = false ∨ c.isOpen = false

/-- Whether a call is told that the session has ended, when its answer may say so: the server has gone,
or has answered with a code that ends the session. -/
def tellsEnd {α : Type} (ends : α → Bool) : Except ClientFault α → Bool
  | .ok a => ends a
  | .error .connectionClosed => true
  | .error (.rejected code _) => isFatalCode code
  | .error _ => false

/-- A call on something with a connection needs the session: it refuses where the session is over and
nowhere else, it does not open or close the stream, and after it the session goes on unless the call
has been told that it has ended. -/
structure NeedsSession {κ σ α : Type} (connection : κ → Connection σ) (ends : α → Bool)
    (call : Call κ α) : Prop where
  refused : ∀ s, (connection s).Over →
    (call s).1 = .error .notConnected ∧ connection (call s).2 = connection s
  refused_only : ∀ s, (call s).1 = .error .notConnected → (connection s).Over
  isOpen : ∀ s, (connection (call s).2).isOpen = (connection s).isOpen
  connected : ∀ s, (connection (call s).2).connected =
    ((connection s).connected && !tellsEnd ends (call s).1)

section

variable {κ σ α β : Type} {connection : κ → Connection σ} {ends : α → Bool}

/-- What is done before the call leaves the connection alone. -/
theorem NeedsSession.prepared {first : Call κ β} {k : β → Call κ α}
    (hfirst : ∀ s, ∃ b s', first s = (.ok b, s') ∧ connection s' = connection s)
    (hk : ∀ b, NeedsSession connection ends (k b)) :
    NeedsSession connection ends (first >>= k) := by
  have hcall : ∀ s, ∃ b s', (first >>= k) s = k b s' ∧ connection s' = connection s := by
    intro s
    obtain ⟨b, s', hs, hsame⟩ := hfirst s
    exact ⟨b, s', by rw [call_bind, hs], hsame⟩
  constructor
  case refused =>
    intro s hover
    obtain ⟨b, s', hs, hsame⟩ := hcall s
    rw [hs, ← hsame]
    exact (hk b).refused s' (hsame ▸ hover)
  case refused_only =>
    intro s
    obtain ⟨b, s', hs, hsame⟩ := hcall s
    rw [hs, ← hsame]
    exact (hk b).refused_only s'
  case isOpen =>
    intro s
    obtain ⟨b, s', hs, hsame⟩ := hcall s
    rw [hs, ← hsame]
    exact (hk b).isOpen s'
  case connected =>
    intro s
    obtain ⟨b, s', hs, hsame⟩ := hcall s
    rw [hs, ← hsame]
    exact (hk b).connected s'

/-- What is made of the answer changes nothing. It is no refusal, and it tells the end of the session
exactly where the answer does. -/
theorem NeedsSession.answered {ends' : β → Bool} {call : Call κ α} {k : α → Call κ β}
    (h : NeedsSession connection ends call) (judge : α → Except ClientFault β)
    (hk : ∀ a s, k a s = (judge a, s)) (hjudge : ∀ a, judge a ≠ .error .notConnected)
    (hends : ∀ s a, (call s).1 = .ok a → tellsEnd ends' (judge a) = ends a) :
    NeedsSession connection ends' (call >>= k) := by
  have hcall : ∀ s, (call >>= k) s = ((call s).1.bind judge, (call s).2) := by
    intro s
    rw [call_bind]
    rcases call s with ⟨fault | a, s'⟩
    · rfl
    · exact hk a s'
  constructor
  case refused =>
    intro s hover
    obtain ⟨hresult, hsame⟩ := h.refused s hover
    rw [hcall, hresult]
    exact ⟨rfl, hsame⟩
  case refused_only =>
    intro s hrefused
    rw [hcall] at hrefused
    cases hresult : (call s).1 with
    | error fault =>
        rw [hresult] at hrefused
        exact h.refused_only s (hresult.trans (congrArg Except.error (Except.error.inj hrefused)))
    | ok a =>
        rw [hresult] at hrefused
        exact absurd hrefused (hjudge a)
  case isOpen => exact fun s => by rw [hcall, h.isOpen]
  case connected =>
    intro s
    rw [hcall, h.connected]
    cases hresult : (call s).1 with
    | error fault => cases fault <;> rfl
    | ok a => exact congrArg (fun told => (connection s).connected && !told) (hends s a hresult).symm

end

variable {σ : Type} {p : Peer σ}

/-- **An exchange needs the session**, and is told of its end only when the server goes. -/
theorem exchange_needsSession (e : Envelope) :
    NeedsSession (fun c : Connection σ => c) (fun _ => false) (exchange p e) := by
  have hready : ∀ c : Connection σ, ¬ c.Over → (exchange p e c).1 ≠ .error .notConnected ∧
      (exchange p e c).2.connected =
        (c.connected && !tellsEnd (fun _ => false) (exchange p e c).1) := by
    intro c hover
    obtain ⟨hconnected, hopen⟩ : c.connected = true ∧ c.isOpen = true := by simpa [Over] using hover
    rw [exchange_eq hconnected hopen]
    cases hwrite : c.stream.write p e with
    | error fault =>
        rcases Stream.write_fault hwrite with ⟨f, rfl⟩ | ⟨f, rfl⟩ <;> simp [tellsEnd]
    | ok s =>
        dsimp only
        rcases hread : s.read p c.settings.readTimeout with ⟨fault | reply, s'⟩
        · rcases Stream.read_fault (congrArg Prod.fst hread) with ⟨f, rfl⟩ | rfl | rfl <;>
            simp [tellsEnd]
        · simp [tellsEnd]
  constructor
  case refused =>
    intro c hover
    rw [exchange_refused e hover]
    exact ⟨rfl, rfl⟩
  case refused_only =>
    intro c hrefused
    by_contra hover
    exact (hready c hover).1 hrefused
  case isOpen =>
    intro c
    have h := exchange_exchanges p c e
    generalize exchange p e c = x at h ⊢
    obtain ⟨result, c'⟩ := x
    dsimp only at h
    cases h <;> rfl
  case connected =>
    intro c
    by_cases hover : c.Over
    · rw [exchange_refused e hover]
      simp [tellsEnd]
    · exact (hready c hover).2

/-- **A request needs the session**, and remembers a response that ends it. -/
theorem request_needsSession (e : Envelope) :
    NeedsSession (fun c : Connection σ => c) Response.isFatal (request p e) := by
  have h := exchange_needsSession (p := p) e
  constructor
  case refused =>
    intro c hover
    rw [request_eq, exchange_refused e hover]
    exact ⟨rfl, rfl⟩
  case refused_only =>
    intro c
    have hrefused := h.refused_only c
    rw [request_eq]
    generalize exchange p e c = x at hrefused ⊢
    obtain ⟨fault | reply, c'⟩ := x
    · exact fun hfault => hrefused (congrArg Except.error (Except.error.inj hfault))
    · dsimp only
      cases reply.response <;> simp
  case isOpen =>
    intro c
    have hopen := h.isOpen c
    rw [request_eq]
    generalize exchange p e c = x at hopen ⊢
    obtain ⟨fault | reply, c'⟩ := x
    · exact hopen
    · dsimp only
      cases reply.response <;> exact hopen
  case connected =>
    intro c
    have hconnected := h.connected c
    rw [request_eq]
    generalize exchange p e c = x at hconnected ⊢
    obtain ⟨fault | reply, c'⟩ := x
    · rw [hconnected]
      cases fault <;> rfl
    · dsimp only at hconnected ⊢
      cases reply.response with
      | none => exact hconnected
      | some r => simp [tellsEnd] at hconnected ⊢; rw [hconnected]

theorem hello_needsSession :
    NeedsSession (fun c : Connection σ => c) (fun _ => false) (hello p) := by
  refine (exchange_needsSession .askGreeting).answered (fun reply =>
    if reply.tag = .greeting then
      reply.greeting.elim (.error (.unexpectedMessage "empty greeting")) .ok
    else .error (.unexpectedMessage ("expected greeting, got " ++ reply.tag.text))) ?_ ?_ ?_
  · intro reply c
    cases reply.tag <;> cases reply.greeting <;> rfl
  · intro reply
    split
    · cases reply.greeting <;> simp
    · simp
  · intro c reply _
    split
    · cases reply.greeting <;> rfl
    · rfl

end Connection

namespace Client

open Connection (Call NeedsSession tellsEnd)

variable {σ α : Type} {p : Peer σ} {ends : α → Bool}

theorem onConnection_needsSession {call : Call (Connection σ) α}
    (h : NeedsSession (fun c : Connection σ => c) ends call) :
    NeedsSession Client.connection ends (onConnection call) where
  refused client := h.refused client.connection
  refused_only client := h.refused_only client.connection
  isOpen client := h.isOpen client.connection
  connected client := h.connected client.connection

theorem sendCommand_needsSession (c : Command) :
    NeedsSession Client.connection Response.isFatal (sendCommand p c) :=
  onConnection_needsSession (Connection.request_needsSession _)

/-- A command that is refused with a code that ends the session is remembered all the same. -/
theorem execute_needsSession (c : Command) :
    NeedsSession Client.connection Response.isFatal (execute p c) := by
  refine (sendCommand_needsSession c).answered
    (fun r => if r.isError then .error (.rejected r.code r.message) else .ok r) ?_ ?_ ?_
  · intro r client
    split <;> rfl
  · intro r
    split <;> simp
  · intro client r _
    split <;> rfl

/-- A response that a command is answered with does not end the session. -/
theorem execute_not_fatal {c : Command} {client : Client σ} {r : Response}
    (h : (execute p c client).1 = .ok r) : r.isFatal = false := by
  rw [execute, Connection.call_bind] at h
  generalize sendCommand p c client = x at h
  obtain ⟨fault | answer, client'⟩ := x
  · exact absurd h (by simp)
  · dsimp only at h
    split at h
    · exact absurd h (by simp [Connection.call_throw])
    · rename_i herror
      obtain rfl : answer = r := Except.ok.inj h
      by_contra hfatal
      exact herror (isErrorCode_of_isFatalCode (Bool.not_eq_false _ ▸ hfatal))

theorem ask_needsSession (c : Command) (what : String) (slot : ResultData → Option α) :
    NeedsSession Client.connection (fun _ => false) (ask p c what slot) := by
  refine (execute_needsSession c).answered (fun r =>
    (r.data.bind slot).elim (.error (.missingData what)) .ok) ?_ ?_ ?_
  · intro r client
    cases r.data.bind slot <;> rfl
  · intro r
    cases r.data.bind slot <;> simp
  · intro client r hr
    rw [execute_not_fatal hr]
    cases r.data.bind slot <;> rfl

/-- The identifier of a command is taken before the command is sent. -/
theorem nextId_needsSession {k : String → Call (Client σ) α}
    (hk : ∀ id, NeedsSession Client.connection ends (k id)) :
    NeedsSession Client.connection ends (nextId >>= k) :=
  .prepared (fun client => ⟨client.ids.current, _, rfl, rfl⟩) hk

end Client

end Provisioning
