import Provisioning.Proofs.Client.Replies
import Provisioning.Proofs.Client.Sessions

/-!
# The session of a client

A client remembers whether its session goes on and whether its stream is open. Whatever it is asked to
do and whatever the server does, the session never begins again, and the stream never opens again:
`perform_lawful` says for each operation what it does to the two, and a run of operations keeps what
one operation keeps.
-/

namespace Provisioning

namespace Connection

variable {σ : Type} {p : Peer σ} {c : Connection σ}

theorem send_closed (e : Envelope) (h : c.isOpen = false) :
    send p e c = (.error .notConnected, c) := by
  simp [send, call_bind, requireOpen_eq, h]

theorem receive_closed (h : c.isOpen = false) : receive p c = (.error .notConnected, c) := by
  simp [receive, call_bind, requireOpen_eq, h]

@[simp] theorem closed_isOpen : (c.closed p).isOpen = false := rfl

@[simp] theorem closed_connected : (c.closed p).connected = false := rfl

end Connection

namespace Stream

/-- What is written to a recorded server is taken. -/
theorem write_recorded {e : Envelope} {bytes : List UInt8} (hencode : Wire.encode e = .ok bytes)
    (s : Stream Coming) : s.write Peer.recorded e = .ok { s with sent := s.sent ++ [e] } := by
  rw [write, hencode]
  rfl

/-- A server that has sent nothing and has gone. -/
theorem read_gone {s : Stream Coming} {time : Nat} (hdecoder : s.decoder = {})
    (hpieces : s.coming.pieces = []) (hpeer : s.peer = { endsAt := some time })
    (htime : time ≤ s.clock) (patience : Nat) :
    ∃ s', s.read Peer.recorded patience = (.error .connectionClosed, s') := by
  have hnone : ∀ {t : Stream Coming} (limit : Nat), t.decoder = {} →
      t.take limit [] = (none, t.withPieces []) := fun limit h => take_early h (by simp)
  have hasked : (s.withPieces []).await Peer.recorded patience =
      { s with coming := ⟨[], some time⟩, peer := { endsAt := some time } } := by
    simp [await, withPieces, Peer.recorded, hpeer]
  refine ⟨{ s with
    coming := ⟨[], some time⟩, peer := { endsAt := some time }, clock := max s.clock time }, ?_⟩
  simp only [read, hpieces, hnone _ hdecoder, hasked, hnone (t := { s with
    coming := ⟨[], some time⟩, peer := { endsAt := some time } }) _ hdecoder]
  simp [giveUp, withPieces, htime]

end Stream

namespace Client

open Connection (Call NeedsSession tellsEnd)

/-! ## Operations -/

/-- What a client can be asked to do, on its connection or in a command of its own. -/
inductive Operation where
  | send (e : Envelope)
  | receive
  | exchange (e : Envelope)
  | request (e : Envelope)
  | sendCommand (c : Command)
  | execute (c : Command)
  | hello
  | logIn (clientId password : String)
  | logOut
  | poll
  | checkDomains (names : List String)
  | checkHosts (names : List String)
  | checkContacts (ids : List String)
  | infoDomain (name password : String) (hosts : HostsFilter)
  | infoHost (name : String)
  | infoContact (id password : String)
  | close

/-- What the operations return. -/
inductive Answer where
  | done
  | message (e : Envelope)
  | response (r : Response)
  | greeting (g : Greeting)
  | items (items : List CheckItem)
  | domain (data : DomainData)
  | host (data : HostData)
  | contact (data : ContactData)

/-- A response says whether it ends the session. -/
def Answer.ends : Answer → Bool
  | .response r => r.isFatal
  | _ => false

namespace Operation

variable {σ : Type} (p : Peer σ)

def perform : Operation → Call (Client σ) Answer
  | .send e => do
    onConnection (Connection.send p e)
    return .done
  | .receive => do return .message (← onConnection (Connection.receive p))
  | .exchange e => do return .message (← onConnection (Connection.exchange p e))
  | .request e => do return .response (← onConnection (Connection.request p e))
  | .sendCommand c => do return .response (← Client.sendCommand p c)
  | .execute c => do return .response (← Client.execute p c)
  | .hello => do return .greeting (← Client.hello p)
  | .logIn clientId password => do return .response (← Client.logIn p clientId password)
  | .logOut => do return .response (← Client.logOut p)
  | .poll => do return .response (← Client.poll p)
  | .checkDomains names => do return .items (← Client.checkDomains p names)
  | .checkHosts names => do return .items (← Client.checkHosts p names)
  | .checkContacts ids => do return .items (← Client.checkContacts p ids)
  | .infoDomain name password hosts => do
    return .domain (← Client.infoDomain p name password hosts)
  | .infoHost name => do return .host (← Client.infoHost p name)
  | .infoContact id password => do return .contact (← Client.infoContact p id password)
  | .close => do
    Client.close p
    return .done

/-- All but what is done with the bare stream needs the session. -/
def needsSession : Operation → Bool
  | .send _ | .receive | .close => false
  | _ => true

/-- Whether the stream is closed after it in any case. -/
def closes : Operation → Bool
  | .logOut | .close => true
  | _ => false

/-- What comes of it when the stream has been closed. Closing again is no fault. -/
def whenClosed : Operation → Except ClientFault Answer
  | .close => .ok .done
  | _ => .error .notConnected

end Operation

/-! ## One operation -/

variable {σ : Type} {p : Peer σ}

/-- What an operation does to the session and to the stream, and what it comes to without them. -/
structure Lawful (p : Peer σ) (operation : Operation) (before : Client σ)
    (outcome : Except ClientFault Answer) (after : Client σ) : Prop where
  connected : after.connection.connected = true ↔ before.connection.connected = true ∧
    tellsEnd Answer.ends outcome = false ∧ operation.closes = false
  isOpen : after.connection.isOpen = (before.connection.isOpen && !operation.closes)
  refused : operation.needsSession = true →
    (outcome = .error .notConnected ↔ before.connection.Over) ∧
    (before.connection.Over → after.connection =
      if operation.closes then before.connection.closed p else before.connection)
  closed : before.connection.isOpen = false → outcome = operation.whenClosed

/-- What is returned of a call that needs the session. -/
theorem answer_needsSession {α : Type} {ends : α → Bool} {call : Call (Client σ) α} (f : α → Answer)
    (h : NeedsSession Client.connection ends call) (hends : ∀ a, (f a).ends = ends a) :
    NeedsSession Client.connection Answer.ends (call >>= fun a => pure (f a)) :=
  h.answered (fun a => .ok (f a)) (fun _ _ => rfl) (by simp) fun _ a _ => hends a

theorem lawful_of_needsSession {operation : Operation} (client : Client σ)
    (h : NeedsSession Client.connection Answer.ends (operation.perform p))
    (hcloses : operation.closes = false) (hclosed : operation.whenClosed = .error .notConnected) :
    Lawful p operation client (operation.perform p client).1 (operation.perform p client).2 where
  connected := by rw [h.connected, hcloses]; simp
  isOpen := by rw [h.isOpen, hcloses, Bool.not_false, Bool.and_true]
  refused _ := by
    rw [hcloses]
    exact ⟨⟨h.refused_only client, fun hover => (h.refused client hover).1⟩,
      fun hover => (h.refused client hover).2⟩
  closed hopen := by rw [(h.refused client (.inr hopen)).1, hclosed]

/-- What is returned of a call on the connection. -/
theorem onConnection_answer {α : Type} (call : Call (Connection σ) α) (f : α → Answer)
    (client : Client σ) : (onConnection call >>= fun a => pure (f a)) client =
      ((call client.connection).1.map f, { client with connection := (call client.connection).2 }) := by
  rw [Connection.call_bind]
  simp only [onConnection]
  rcases call client.connection with ⟨fault | a, c⟩ <;> rfl

/-- A call with the bare stream goes on when the session is over, but not when the stream is closed. -/
theorem lawful_of_stream {operation : Operation} {α : Type} {f : α → Answer} (client : Client σ)
    (call : Call (Connection σ) α)
    (hperform : operation.perform p = onConnection call >>= fun a => pure (f a))
    (hf : ∀ a, (f a).ends = false) (hneeds : operation.needsSession = false)
    (hcloses : operation.closes = false) (hclosed : operation.whenClosed = .error .notConnected)
    (hcall : ∀ c : Connection σ, (call c).2.isOpen = c.isOpen ∧
      ((call c).2.connected = (c.connected && !tellsEnd (fun _ => false) (call c).1)) ∧
      (c.isOpen = false → (call c).1 = .error .notConnected)) :
    Lawful p operation client (operation.perform p client).1 (operation.perform p client).2 := by
  obtain ⟨hopen, hconnected, hrefused⟩ := hcall client.connection
  have htold : tellsEnd Answer.ends ((call client.connection).1.map f) =
      tellsEnd (fun _ => false) (call client.connection).1 := by
    cases (call client.connection).1 with
    | error fault => cases fault <;> rfl
    | ok a => exact hf a
  rw [hperform, onConnection_answer]
  constructor
  case connected =>
    dsimp only
    rw [hconnected, htold, hcloses]
    simp
  case isOpen => simpa [hcloses] using hopen
  case refused => exact fun h => absurd h (by simp [hneeds])
  case closed =>
    intro h
    rw [hrefused h, hclosed]
    rfl

theorem send_lawful (e : Envelope) (client : Client σ) :
    Lawful p (.send e) client ((Operation.send e).perform p client).1
      ((Operation.send e).perform p client).2 := by
  refine lawful_of_stream client (Connection.send p e) rfl (fun _ => rfl) rfl rfl rfl ?_
  intro c
  cases hopen : c.isOpen with
  | false => simp [Connection.send_closed e hopen, tellsEnd, hopen]
  | true =>
      rw [Connection.send_eq c e hopen]
      cases hwrite : c.stream.write p e with
      | ok s => simp [tellsEnd, hopen]
      | error fault =>
          rcases Stream.write_fault hwrite with ⟨f, rfl⟩ | ⟨f, rfl⟩ <;> simp [tellsEnd, hopen]

theorem receive_lawful (client : Client σ) :
    Lawful p .receive client (Operation.receive.perform p client).1
      (Operation.receive.perform p client).2 := by
  refine lawful_of_stream client (Connection.receive p) rfl (fun _ => rfl) rfl rfl rfl ?_
  intro c
  cases hopen : c.isOpen with
  | false => simp [Connection.receive_closed hopen, tellsEnd, hopen]
  | true =>
      rw [Connection.receive_eq c hopen]
      rcases hread : c.stream.read p c.settings.readTimeout with ⟨fault | reply, s⟩
      · rcases Stream.read_fault (congrArg Prod.fst hread) with ⟨f, rfl⟩ | rfl | rfl <;>
          simp [tellsEnd, hopen]
      · simp [tellsEnd, hopen]

theorem close_lawful (client : Client σ) :
    Lawful p .close client (Operation.close.perform p client).1
      (Operation.close.perform p client).2 := by
  have hafter : (Operation.close.perform p client).2.connection = client.connection.closed p := rfl
  constructor
  case connected => simp [hafter, Operation.closes]
  case isOpen => simp [hafter, Operation.closes]
  case refused => exact fun h => absurd h (by simp [Operation.needsSession])
  case closed => exact fun _ => rfl

theorem logOut_lawful (client : Client σ) :
    Lawful p .logOut client (Operation.logOut.perform p client).1
      (Operation.logOut.perform p client).2 := by
  -- the command needs the session, and then the stream is closed in any case
  let command : Call (Client σ) Response := nextId >>= fun id => execute p (.logOut id)
  have hcommand : NeedsSession Client.connection Response.isFatal command :=
    nextId_needsSession fun id => execute_needsSession _
  have hperform : Operation.logOut.perform p client = ((command client).1.map Answer.response,
      { (command client).2 with connection := (command client).2.connection.closed p }) := by
    have hlogOut : logOut p client = ((command client).1,
        { (command client).2 with connection := (command client).2.connection.closed p }) := rfl
    rw [Operation.perform, Connection.call_bind, hlogOut]
    cases (command client).1 <;> rfl
  have hafter : (Operation.logOut.perform p client).2.connection =
      (command client).2.connection.closed p := by rw [hperform]
  have hresult : (Operation.logOut.perform p client).1 = .error .notConnected ↔
      client.connection.Over := by
    rw [hperform]
    refine ⟨fun h => hcommand.refused_only client ?_, fun h => by rw [(hcommand.refused client h).1]; rfl⟩
    cases hc : (command client).1 with
    | error fault =>
        rw [hc] at h
        exact congrArg Except.error (Except.error.inj h)
    | ok r =>
        rw [hc] at h
        exact absurd h (by simp [Except.map])
  constructor
  case connected => simp [hafter, Operation.closes]
  case isOpen => simp [hafter, Operation.closes]
  case refused =>
    refine fun _ => ⟨hresult, fun hover => ?_⟩
    rw [hafter, (hcommand.refused client hover).2]
    rfl
  case closed => exact fun hopen => hresult.mpr (.inr hopen)

/-- **Each operation is lawful**, whatever the server does. -/
theorem perform_lawful (operation : Operation) (client : Client σ) :
    Lawful p operation client (operation.perform p client).1 (operation.perform p client).2 := by
  have hcommand : ∀ k : String → Command, NeedsSession Client.connection Response.isFatal
      ((nextId : Call (Client σ) String) >>= fun id => execute p (k id)) :=
    fun k => nextId_needsSession fun id => execute_needsSession (k id)
  cases operation
  case send e => exact send_lawful e client
  case receive => exact receive_lawful client
  case close => exact close_lawful client
  case logOut => exact logOut_lawful client
  case exchange e =>
    have hcall := onConnection_needsSession (Connection.exchange_needsSession (p := p) e)
    exact lawful_of_needsSession client (answer_needsSession .message hcall fun _ => rfl) rfl rfl
  case request e =>
    have hcall := onConnection_needsSession (Connection.request_needsSession (p := p) e)
    exact lawful_of_needsSession client (answer_needsSession .response hcall fun _ => rfl) rfl rfl
  case hello =>
    have hcall := onConnection_needsSession (Connection.hello_needsSession (p := p))
    exact lawful_of_needsSession client (answer_needsSession .greeting hcall fun _ => rfl) rfl rfl
  case sendCommand c =>
    exact lawful_of_needsSession client
      (answer_needsSession .response (sendCommand_needsSession c) fun _ => rfl) rfl rfl
  case execute c =>
    exact lawful_of_needsSession client
      (answer_needsSession .response (execute_needsSession c) fun _ => rfl) rfl rfl
  case poll =>
    exact lawful_of_needsSession client
      (answer_needsSession .response (hcommand .requestMessage) fun _ => rfl) rfl rfl
  case logIn clientId password =>
    -- the services that are asked for are looked up between the identifier and the command
    have hcall : NeedsSession Client.connection Response.isFatal (Client.logIn p clientId password) :=
      nextId_needsSession fun id => .prepared (fun client => ⟨client, client, rfl, rfl⟩)
        fun _ => execute_needsSession _
    exact lawful_of_needsSession client (answer_needsSession .response hcall fun _ => rfl) rfl rfl
  case checkDomains | checkHosts | checkContacts | infoDomain | infoHost | infoContact =>
    exact lawful_of_needsSession client (answer_needsSession _
      (nextId_needsSession fun id => ask_needsSession _ _ _) fun _ => rfl) rfl rfl

/-! ## Operations one after the other -/

/-- The client is left alone for some time and is then asked to do something. -/
structure Step where
  idle : Nat := 0
  operation : Operation

/-- What has been done, and the client before it and after it. -/
structure Event (σ : Type) where
  operation : Operation
  before : Client σ
  outcome : Except ClientFault Answer
  after : Client σ

def Step.event (p : Peer σ) (client : Client σ) (t : Step) : Event σ :=
  let done := t.operation.perform p (client.wait t.idle)
  { operation := t.operation, before := client.wait t.idle, outcome := done.1, after := done.2 }

@[simp] theorem Step.event_outcome (p : Peer σ) (client : Client σ) (t : Step) :
    (t.event p client).outcome = (t.operation.perform p (client.wait t.idle)).1 := rfl

/-- All that is done, one after the other. -/
def events (p : Peer σ) (client : Client σ) : List Step → List (Event σ)
  | [] => []
  | t :: steps => t.event p client :: events p (t.event p client).after steps

/-- A part of a run is a run, and each of its events is lawful. -/
theorem events_split {client : Client σ} {steps : List Step} {past future : List (Event σ)}
    {x : Event σ} (h : client.events p steps = past ++ x :: future) :
    Lawful p x.operation x.before x.outcome x.after ∧
      ∃ rest, future = x.after.events p rest := by
  induction steps generalizing client past with
  | nil => exact absurd h (by simp [events])
  | cons t steps ih =>
      cases past with
      | nil =>
          rw [events, List.nil_append, List.cons.injEq] at h
          obtain ⟨rfl, rfl⟩ := h
          exact ⟨perform_lawful t.operation (client.wait t.idle), steps, rfl⟩
      | cons y past =>
          rw [events, List.cons_append, List.cons.injEq] at h
          exact ih h.2

/-- **A session that is over never begins again.** -/
theorem events_over {client : Client σ} (h : client.connection.connected = false)
    (steps : List Step) : ∀ x ∈ client.events p steps,
      x.before.connection.connected = false ∧ x.after.connection.connected = false := by
  induction steps generalizing client with
  | nil => simp [events]
  | cons t steps ih =>
      have hbefore : (client.wait t.idle).connection.connected = false := h
      have hlawful := perform_lawful (p := p) t.operation (client.wait t.idle)
      have hafter : (t.event p client).after.connection.connected = false := by
        by_contra hconnected
        have hstill := (hlawful.connected.mp (Bool.not_eq_false _ ▸ hconnected)).1
        exact absurd (hbefore.symm.trans hstill) (by simp)
      intro x hx
      rcases List.mem_cons.mp hx with rfl | hx
      · exact ⟨hbefore, hafter⟩
      · exact ih hafter x hx

/-- **A stream that is closed never opens again.** -/
theorem events_closed {client : Client σ} (h : client.connection.isOpen = false)
    (steps : List Step) : ∀ x ∈ client.events p steps, x.outcome = x.operation.whenClosed := by
  induction steps generalizing client with
  | nil => simp [events]
  | cons t steps ih =>
      have hlawful := perform_lawful (p := p) t.operation (client.wait t.idle)
      have hbefore : (client.wait t.idle).connection.isOpen = false := h
      have hafter := hlawful.isOpen
      rw [hbefore, Bool.false_and] at hafter
      intro x hx
      rcases List.mem_cons.mp hx with rfl | hx
      · exact hlawful.closed hbefore
      · exact ih hafter x hx

/--
**A session ends once.** A client is asked for one thing after the other, with whatever waits between
them, and the server does what it likes.

* The session goes on after a call exactly if it went on before, the call has not been told that the
  server has gone or been answered with a code that ends the session, and the client has neither logged
  out nor closed.
* What needs the session is refused where it is over, and nowhere else; and then nothing is written.
* A session that is over never begins again.
* Once the client has logged out or closed, whatever came of it, nothing can be done at all, except
  that closing again is no fault.
-/
theorem sessions_end_once {client : Client σ} {steps : List Step} {past future : List (Event σ)}
    {x : Event σ} (h : client.events p steps = past ++ x :: future) :
    (x.after.connection.connected = true ↔ x.before.connection.connected = true ∧
      tellsEnd Answer.ends x.outcome = false ∧ x.operation.closes = false) ∧
    (x.operation.needsSession = true →
      (x.outcome = .error .notConnected ↔ x.before.connection.Over) ∧
      (x.before.connection.Over → x.after.connection =
        if x.operation.closes then x.before.connection.closed p else x.before.connection)) ∧
    (x.after.connection.connected = false → ∀ y ∈ future,
      y.before.connection.connected = false ∧ y.after.connection.connected = false) ∧
    (x.operation.closes = true → ∀ y ∈ future, y.outcome = y.operation.whenClosed) := by
  obtain ⟨hlawful, rest, rfl⟩ := events_split h
  refine ⟨hlawful.connected, hlawful.refused, fun hover => events_over hover rest, ?_⟩
  intro hcloses
  refine events_closed ?_ rest
  rw [hlawful.isOpen, hcloses, Bool.not_true, Bool.and_false]

/-- A command to a server that has sent nothing and has gone. -/
theorem execute_gone (client : Client Coming) {c : Command} {bytes : List UInt8} {time : Nat}
    (hencode : Wire.encode (.ofCommand c) = .ok bytes)
    (hconnected : client.connection.connected = true) (hopen : client.connection.isOpen = true)
    (hdecoder : client.connection.stream.decoder = {})
    (hpieces : client.connection.stream.coming.pieces = [])
    (hpeer : client.connection.stream.peer = { endsAt := some time })
    (htime : time ≤ client.connection.stream.clock) :
    ((Operation.execute c).perform Peer.recorded client).1 = .error .connectionClosed := by
  obtain ⟨s', hread⟩ := Stream.read_gone (s := { client.connection.stream with
    sent := client.connection.stream.sent ++ [.ofCommand c] }) hdecoder hpieces hpeer htime
    client.connection.settings.readTimeout
  obtain ⟨connection, hrequest⟩ : ∃ connection, Connection.request Peer.recorded (.ofCommand c)
      client.connection = (.error .connectionClosed, connection) := by
    rw [Connection.request_eq, Connection.exchange_eq hconnected hopen,
      Stream.write_recorded hencode]
    simp only [hread]
    exact ⟨_, rfl⟩
  have hcall : execute Peer.recorded c client =
      ({ command := c, judged := true } : Turn).call Peer.recorded client := rfl
  rw [Operation.perform, Connection.call_bind, hcall, call_eq, hrequest]

/-- The server goes while a client looks into its queue; what the client is asked for after it. -/
theorem sessions_end_once_deserted :
    let client : Client Coming := {
      connection := {
        greeting := { serverId := "S", serverDate := "", menu := .standard }
        stream := { peer := { endsAt := some 0 } } }
      ids := ⟨"T", 1⟩
      menu := .standard }
    let steps : List Step := [{ operation := .execute (.requestMessage "A-1") },
      { idle := 5000, operation := .checkHosts ["ns1.example"] }, { operation := .logOut },
      { operation := .receive }, { operation := .close }]
    ∃ x₁ x₂ x₃ x₄ x₅, client.events Peer.recorded steps = [x₁, x₂, x₃, x₄, x₅] ∧
      x₁.outcome = .error .connectionClosed ∧ x₁.after.connection.connected = false ∧
      x₂.outcome = .error .notConnected ∧ x₂.after.connection = x₂.before.connection ∧
      x₃.outcome = .error .notConnected ∧ x₄.outcome = .error .notConnected ∧
      x₅.outcome = .ok .done := by
  intro client steps
  obtain ⟨x₁, hx₁⟩ : ∃ x, x = Step.event Peer.recorded client
    { operation := .execute (.requestMessage "A-1") } := ⟨_, rfl⟩
  obtain ⟨x₂, hx₂⟩ : ∃ x, x = Step.event Peer.recorded x₁.after
    { idle := 5000, operation := .checkHosts ["ns1.example"] } := ⟨_, rfl⟩
  obtain ⟨x₃, hx₃⟩ : ∃ x, x = Step.event Peer.recorded x₂.after { operation := .logOut } := ⟨_, rfl⟩
  obtain ⟨x₄, hx₄⟩ : ∃ x, x = Step.event Peer.recorded x₃.after { operation := .receive } := ⟨_, rfl⟩
  obtain ⟨x₅, hx₅⟩ : ∃ x, x = Step.event Peer.recorded x₄.after { operation := .close } := ⟨_, rfl⟩
  have hevents : client.events Peer.recorded steps = [x₁, x₂, x₃, x₄, x₅] := by
    simp only [steps, events, hx₅, hx₄, hx₃, hx₂, hx₁]
  have hgone : x₁.outcome = .error .connectionClosed := by
    obtain ⟨bytes, reply, hencode, -⟩ := encode_requestMessage "A-1" (by decide)
    rw [hx₁, Step.event_outcome]
    exact execute_gone (client.wait 0) hencode rfl rfl rfl rfl rfl (Nat.zero_le _)
  have hfirst : client.events Peer.recorded steps = [] ++ x₁ :: [x₂, x₃, x₄, x₅] := hevents
  have hsecond : client.events Peer.recorded steps = [x₁] ++ x₂ :: [x₃, x₄, x₅] := hevents
  have hthird : client.events Peer.recorded steps = [x₁, x₂] ++ x₃ :: [x₄, x₅] := hevents
  obtain ⟨hconnected, -, hover, -⟩ := sessions_end_once hfirst
  obtain ⟨-, hrefused, -⟩ := sessions_end_once hsecond
  obtain ⟨-, hrefused', -, hclosed⟩ := sessions_end_once hthird
  have hended : x₁.after.connection.connected = false := by
    by_contra hgoesOn
    obtain ⟨-, htold, -⟩ := hconnected.mp (Bool.not_eq_false _ ▸ hgoesOn)
    exact absurd htold (by rw [hgone]; simp [tellsEnd])
  have hover₂ : x₂.before.connection.Over := .inl (hover hended x₂ (by simp)).1
  have hover₃ : x₃.before.connection.Over := .inl (hover hended x₃ (by simp)).1
  obtain ⟨hresult₂, hsame₂⟩ := hrefused (by rw [hx₂]; rfl)
  obtain ⟨hresult₃, -⟩ := hrefused' (by rw [hx₃]; rfl)
  have hcloses : x₃.operation.closes = true := by rw [hx₃]; rfl
  refine ⟨x₁, x₂, x₃, x₄, x₅, hevents, hgone, hended, hresult₂.mpr hover₂, ?_, hresult₃.mpr hover₃,
    ?_, ?_⟩
  · rw [hsame₂ hover₂, hx₂]
    rfl
  · rw [hclosed hcloses x₄ (by simp), hx₄]
    rfl
  · rw [hclosed hcloses x₅ (by simp), hx₅]
    rfl

/-- Not everything is refused once a client has closed: it may close again. -/
theorem closing_again_succeeds :
    ∃ greeting connection x y,
      Wire.encode (.ofGreeting { serverId := "S", serverDate := "", menu := .standard }) =
        .ok greeting ∧
      Connection.ofStream Peer.delayed {} ⟨[], [⟨0, greeting⟩]⟩ = .ok connection ∧
      (ofConnection connection ⟨"T", 1⟩).events Peer.delayed
        [{ operation := .close }, { operation := .close }] = [x, y] ∧
      x.operation = .close ∧ x.outcome = .ok .done ∧ y.outcome = .ok .done ∧
      y.outcome ≠ .error .notConnected := by
  obtain ⟨greeting, hgreeting⟩ := encode_greeting "S" "" (by decide)
  obtain ⟨connection, hconnection, -⟩ := Connection.ofStream_delayed hgreeting []
  have hclose : ∀ client : Client Delayed,
      (Step.event Peer.delayed client { operation := .close }).outcome = .ok .done := fun _ => rfl
  exact ⟨greeting, connection, _, _, hgreeting, hconnection, rfl, rfl, hclose _, hclose _,
    by rw [hclose]; simp⟩

end Client

end Provisioning
