import Provisioning.Client.Client
import Provisioning.Proofs.Client.Delays
import Provisioning.Proofs.Message.WrittenSize

/-!
# A reply answers its own command

One client gives commands one after the other, and between them it may be left alone for any time.
Each of its calls is one request, so it keeps the connection in step with the server unless it runs
out of time (`Client.call_inStep`), and as long as none has, every response is the one to the command
of the very call that returns it, whatever happened to the calls before: commands that were too large
to be written, replies that could not be read, refusals, the end of the session.

Two things keep the theorem from saying more. An identifier arrives without the blanks at its ends,
like every text. And a call that has run out of time leaves its reply behind: the connection goes on,
and the reply that is late answers the next command (`late_reply_is_taken_next`).
-/

namespace Provisioning

open Markup

namespace Client

open Connection (Call)

variable {σ : Type} (p : Peer σ)

/-! ## Calls one after the other -/

/-- One call: the client is left alone for some time and then gives a command, whose response it
judges or not. -/
structure Turn where
  idle : Nat := 0
  command : Command
  judged : Bool := false

/-- Time passes. -/
def wait (client : Client σ) (time : Nat) : Client σ :=
  { client with connection := { client.connection with
      stream := { client.connection.stream with clock := client.connection.stream.clock + time } } }

def Turn.call (t : Turn) : Call (Client σ) Response :=
  if t.judged then execute p t.command else sendCommand p t.command

/-- What comes of calls that are made one after the other. -/
def results (client : Client σ) : List Turn → List (Turn × Except ClientFault Response)
  | [] => []
  | t :: turns =>
    (t, (t.call p (client.wait t.idle)).1) :: results (t.call p (client.wait t.idle)).2 turns

variable {p} {owed : σ → List UInt8} {commands : List Command}

/-- A call is one request; if it judges the response it may refuse it. -/
theorem call_eq (t : Turn) (client : Client σ) : t.call p client =
    match Connection.request p (.ofCommand t.command) client.connection with
    | (.error fault, connection) => (.error fault, { client with connection })
    | (.ok r, connection) =>
      (if t.judged && r.isError then .error (.rejected r.code r.message) else .ok r,
        { client with connection }) := by
  have hsend : sendCommand p t.command client =
      ((Connection.request p (.ofCommand t.command) client.connection).1, { client with
        connection := (Connection.request p (.ofCommand t.command) client.connection).2 }) := rfl
  rw [Turn.call]
  cases t.judged with
  | false =>
      rw [if_neg (by simp), hsend]
      rcases Connection.request p (.ofCommand t.command) client.connection with ⟨(fault | r), c⟩
      · rfl
      · rfl
  | true =>
      rw [if_pos rfl, execute, Connection.call_bind, hsend]
      rcases Connection.request p (.ofCommand t.command) client.connection with ⟨(fault | r), c⟩
      · rfl
      · cases hr : r.isError <;> simp [hr, Connection.call_pure, Connection.call_throw]

/-- **One call keeps in step** unless it runs out of time. -/
theorem call_inStep (hp : p.Answers owed commands) {t : Turn} (ht : t.command ∈ commands)
    {client : Client σ} (hclient : client.connection.InStep owed) :
    ((t.call p (client.wait t.idle)).1 = .error .timeout ∨
      (t.call p (client.wait t.idle)).2.connection.InStep owed) ∧
    ∀ r, (t.call p (client.wait t.idle)).1 = .ok r →
      r.clientTransactionId = trimText t.command.transactionId := by
  -- time passes for the clock of the stream only
  have hwaited : (client.wait t.idle).connection.InStep owed := hclient
  obtain ⟨hstep, hid⟩ := Connection.request_inStep hp ht hwaited
  rw [call_eq]
  rcases hr : Connection.request p (.ofCommand t.command) (client.wait t.idle).connection with
    ⟨(fault | r), c⟩
  · rw [hr] at hstep
    exact ⟨hstep.imp (fun hlate => by rw [Except.error.inj hlate]) id, by simp⟩
  · rw [hr] at hstep hid
    refine ⟨.inr (hstep.resolve_left (by simp)), ?_⟩
    intro q hq
    dsimp only at hq
    split at hq
    · exact absurd hq (by simp)
    · rw [← Except.ok.inj hq]
      exact hid r rfl

/-- What holds of one call holds of all, as long as none has run out of time. -/
theorem results_answered (hp : p.Answers owed commands) {turns : List Turn}
    (hturns : ∀ t ∈ turns, t.command ∈ commands) {client : Client σ}
    (hclient : client.connection.InStep owed)
    {before after : List (Turn × Except ClientFault Response)} {t : Turn} {r : Response}
    (hrun : client.results p turns = before ++ (t, .ok r) :: after)
    (htimely : ∀ x ∈ before, x.2 ≠ .error .timeout) :
    r.clientTransactionId = trimText t.command.transactionId := by
  induction turns generalizing client before with
  | nil => exact absurd hrun (by simp [results])
  | cons u turns ih =>
      obtain ⟨hstep, hid⟩ := call_inStep hp (hturns u (by simp)) hclient
      cases before with
      | nil =>
          rw [results, List.nil_append, List.cons.injEq, Prod.mk.injEq] at hrun
          obtain ⟨⟨rfl, hr⟩, -⟩ := hrun
          exact hid r hr
      | cons x before =>
          rw [results, List.cons_append, List.cons.injEq] at hrun
          obtain ⟨rfl, hrest⟩ := hrun
          have hkept := hstep.resolve_left (htimely _ List.mem_cons_self)
          exact ih (fun v hv => hturns v (by simp [hv])) hkept hrest
            fun y hy => htimely y (by simp [hy])

/-! ### Calls on a delayed server -/

section

variable {client : Client Delayed} {t : Turn} {clock d : Nat} {delays : List Nat}
  {pieces rest : List Piece} {piece : Piece} {bytes reply : List UInt8}

theorem isError_success (c : Command) : c.success.delivered.isError = false := by
  simp only [Response.isError, Response.delivered, Command.success, Response.ofCode]
  decide

/-- A call takes the first reply that is coming, whichever command it is the reply to. -/
theorem call_answered (client : Client Delayed) (t : Turn)
    (h : client.connection.Rests clock (d :: delays) pieces)
    (hplain : t.command.Plain) (hencode : Wire.encode (.ofCommand t.command) = .ok bytes)
    (hreply : Wire.encode (.ofResponse t.command.success) = .ok reply)
    (hearly : ∀ q ∈ pieces.head?, clock + t.idle < q.time)
    (hcoming : pieces ++ [⟨clock + t.idle + d, reply⟩] = piece :: rest) {other : Command}
    (hother : Wire.encode (.ofResponse other.success) = .ok piece.bytes)
    (htime : piece.time ≤ clock + t.idle + client.connection.settings.readTimeout) :
    ∃ client', t.call Peer.delayed (client.wait t.idle) = (.ok other.success.delivered, client') ∧
      client'.connection.settings = client.connection.settings ∧
      client'.connection.Rests (max (clock + t.idle) piece.time) delays rest := by
  have hwaited : (client.wait t.idle).connection.Rests (clock + t.idle) (d :: delays) pieces :=
    ⟨h.connected, h.isOpen, h.stream.decoder, by rw [← h.stream.clock]; rfl, h.stream.peer,
      h.stream.pieces⟩
  obtain ⟨c, hrequest, hsettings, hrests⟩ :=
    hwaited.request_answered hplain hencode hreply hearly hcoming hother htime
  refine ⟨{ client.wait t.idle with connection := c }, ?_, hsettings, hrests⟩
  rw [call_eq, hrequest]
  simp [isError_success]

/-- A call whose reply is late fails, and the reply is still coming. -/
theorem call_late (client : Client Delayed) (t : Turn)
    (h : client.connection.Rests clock (d :: delays) [])
    (hplain : t.command.Plain) (hencode : Wire.encode (.ofCommand t.command) = .ok bytes)
    (hreply : Wire.encode (.ofResponse t.command.success) = .ok reply)
    (hlate : client.connection.settings.readTimeout < d) :
    ∃ client', t.call Peer.delayed (client.wait t.idle) = (.error .timeout, client') ∧
      client'.connection.settings = client.connection.settings ∧
      client'.connection.Rests (clock + t.idle + client.connection.settings.readTimeout) delays
        [⟨clock + t.idle + d, reply⟩] := by
  have hwaited : (client.wait t.idle).connection.Rests (clock + t.idle) (d :: delays) [] :=
    ⟨h.connected, h.isOpen, h.stream.decoder, by rw [← h.stream.clock]; rfl, h.stream.peer,
      h.stream.pieces⟩
  obtain ⟨c, hrequest, hsettings, hrests⟩ := hwaited.request_late hplain hencode hreply hlate
  refine ⟨{ client.wait t.idle with connection := c }, ?_, hsettings, hrests⟩
  rw [call_eq, hrequest]

/-- **A late reply answers the next command.** When the reply to one call comes too late for it and in
time for the next one, the next call returns it, whatever its own command is. -/
theorem late_reply_is_taken_next (client : Client Delayed) (t u : Turn) {d' : Nat}
    (h : client.connection.Rests clock (d :: d' :: delays) [])
    (ht : t.command.Plain) (hencode : Wire.encode (.ofCommand t.command) = .ok bytes)
    (hreply : Wire.encode (.ofResponse t.command.success) = .ok reply)
    (hu : u.command.Plain) {bytes' reply' : List UInt8}
    (hencode' : Wire.encode (.ofCommand u.command) = .ok bytes')
    (hreply' : Wire.encode (.ofResponse u.command.success) = .ok reply')
    (hlate : client.connection.settings.readTimeout + u.idle < d)
    (htime : d ≤ client.connection.settings.readTimeout + u.idle +
      client.connection.settings.readTimeout) :
    client.results Peer.delayed [t, u] =
      [(t, .error .timeout), (u, .ok t.command.success.delivered)] := by
  obtain ⟨client', hfirst, hsettings, hrests⟩ := call_late client t h ht hencode hreply (by omega)
  obtain ⟨_, hsecond, -, -⟩ := call_answered client' u hrests hu hencode' hreply'
    (by rintro q ⟨⟩; dsimp only; omega) rfl hreply (by rw [hsettings]; dsimp only; omega)
  simp only [results, hfirst, hsecond]

/-- The greeting of a server with the usual services can be written when its texts are short. -/
theorem encode_greeting (serverId serverDate : String)
    (h : writtenSize serverId + writtenSize serverDate ≤ 10000) :
    ∃ bytes, Wire.encode (.ofGreeting { serverId, serverDate, menu := .standard }) = .ok bytes := by
  have hsize := Greeting.size_toElement_le serverId serverDate
  exact Wire.encode_of_size (by omega)

theorem requestMessage_plain (id : String) : (Command.requestMessage id).Plain := by
  constructor <;> simp [Command.requestMessage, Command.blank]

/-- A look into the queue and its answer can be written when the identifier is short. -/
theorem encode_requestMessage (id : String)
    (h : writtenSize id + writtenSize (trimText id) ≤ 10000) :
    ∃ bytes reply, Wire.encode (.ofCommand (.requestMessage id)) = .ok bytes ∧
      Wire.encode (.ofResponse (Command.requestMessage id).success) = .ok reply := by
  have hcommand := Envelope.size_requestMessage_le id
  have hanswer : (Envelope.ofResponse (Command.requestMessage id).success).toElement.size 0 ≤
      689 + writtenSize (trimText id) + writtenSize "S-1" :=
    size_answer_le .commandSuccessful (trimText id) "S-1" none
  have hserver : writtenSize "S-1" = 3 := by decide
  obtain ⟨bytes, hbytes⟩ := Wire.encode_of_size (e := .ofCommand (.requestMessage id)) (by omega)
  obtain ⟨reply, hreply⟩ :=
    Wire.encode_of_size (e := .ofResponse (Command.requestMessage id).success) (by omega)
  exact ⟨bytes, reply, hbytes, hreply⟩

end

/--
**A reply answers its own command.** Over a server that answers every command once and in order, with
whatever delays: a client that has begun with the greeting makes calls one after the other, and when
one of them returns a response, and none before it has run out of time, the response has the
identifier of that call's command, without the blanks at its ends.
-/
theorem reply_answers_its_command {settings : ConnectionSettings} {peer : σ} {g : Greeting}
    {connection : Connection σ} {turns : List Turn}
    (hp : p.Answers owed (turns.map (·.command)))
    (hgreeting : Wire.encode (.ofGreeting g) = .ok (owed peer))
    (hconnection : Connection.ofStream p settings peer = .ok connection) (ids : TransactionIds)
    {before after : List (Turn × Except ClientFault Response)} {t : Turn} {r : Response}
    (hrun : (ofConnection connection ids).results p turns = before ++ (t, .ok r) :: after)
    (htimely : ∀ x ∈ before, x.2 ≠ .error .timeout) :
    r.clientTransactionId = trimText t.command.transactionId :=
  results_answered hp (fun _ ht => List.mem_map_of_mem ht)
    (Connection.ofStream_inStep hp.delivers hgreeting hconnection) hrun htimely

/-- Two calls whose replies come in time, the second for an identifier with blanks around it. -/
theorem reply_answers_its_command_in_time :
    let a : Turn := { command := .requestMessage "A-1" }
    let b : Turn := { idle := 5000, command := .requestMessage " B-1 ", judged := true }
    ∃ greeting connection r s,
      Connection.ofStream Peer.delayed {} ⟨[10000, 20000], [⟨0, greeting⟩]⟩ = .ok connection ∧
      (ofConnection connection ⟨"T", 1⟩).results Peer.delayed [a, b] = [(a, .ok r), (b, .ok s)] ∧
      s.clientTransactionId = trimText " B-1 " := by
  intro a b
  obtain ⟨greeting, hgreeting⟩ := encode_greeting "S" "" (by decide)
  obtain ⟨connection, hconnection, hsettings, hrests⟩ :=
    Connection.ofStream_delayed hgreeting [10000, 20000]
  obtain ⟨bytes, reply, hencode, hreply⟩ := encode_requestMessage "A-1" (by decide)
  obtain ⟨bytes', reply', hencode', hreply'⟩ := encode_requestMessage " B-1 " (by decide)
  obtain ⟨client, hfirst, hsettings₁, hrests₁⟩ := call_answered
    (ofConnection connection ⟨"T", 1⟩) a hrests (requestMessage_plain _) hencode hreply (by simp) rfl
    hreply (by simp [a, ofConnection, hsettings])
  obtain ⟨client', hsecond, -, -⟩ := call_answered client b hrests₁ (requestMessage_plain _) hencode'
    hreply' (by simp) rfl hreply' (by simp [a, b, hsettings₁, ofConnection, hsettings])
  have hrun : (ofConnection connection ⟨"T", 1⟩).results Peer.delayed [a, b] =
      [(a, .ok a.command.success.delivered), (b, .ok b.command.success.delivered)] := by
    simp only [results, hfirst, hsecond]
    rfl
  have hsplit : (ofConnection connection ⟨"T", 1⟩).results Peer.delayed [a, b] =
      [(a, .ok a.command.success.delivered)] ++ (b, .ok b.command.success.delivered) :: [] := hrun
  have hserver : Peer.delayed.Answers Delayed.owed ([a, b].map (·.command)) :=
    Delayed.answers (by simp [a, b, requestMessage_plain])
  have hid : b.command.success.delivered.clientTransactionId = trimText b.command.transactionId :=
    reply_answers_its_command hserver (by simpa [Delayed.owed] using hgreeting) hconnection
      ⟨"T", 1⟩ hsplit (by simp)
  exact ⟨greeting, connection, _, _, hconnection, hrun, hid⟩

/-- A response can have the identifier of another command, on a server that answers every command in
order: the first call runs out of time after 30 seconds, and the second one is given the reply to it,
which comes after 40, although its own comes in time as well. -/
theorem identifiers_can_differ :
    let a : Turn := { command := .requestMessage "A-1" }
    let b : Turn := { command := .requestMessage "B-1" }
    Peer.delayed.Answers Delayed.owed [a.command, b.command] ∧
    ∃ g greeting connection r,
      Wire.encode (.ofGreeting g) = .ok greeting ∧
      Connection.ofStream Peer.delayed {} ⟨[40000, 15000], [⟨0, greeting⟩]⟩ = .ok connection ∧
      (ofConnection connection ⟨"T", 1⟩).results Peer.delayed [a, b] =
        [(a, .error .timeout), (b, .ok r)] ∧
      r.clientTransactionId = a.command.transactionId ∧
      r.clientTransactionId ≠ b.command.transactionId := by
  intro a b
  refine ⟨Delayed.answers (by simp [a, b, requestMessage_plain]), ?_⟩
  obtain ⟨greeting, hgreeting⟩ := encode_greeting "S" "" (by decide)
  obtain ⟨connection, hconnection, hsettings, hrests⟩ :=
    Connection.ofStream_delayed hgreeting [40000, 15000]
  obtain ⟨bytes, reply, hencode, hreply⟩ := encode_requestMessage "A-1" (by decide)
  obtain ⟨bytes', reply', hencode', hreply'⟩ := encode_requestMessage "B-1" (by decide)
  -- the late reply comes at 40000, before the patience for the second call ends at 60000
  have hrun := late_reply_is_taken_next (ofConnection connection ⟨"T", 1⟩) a b hrests
    (requestMessage_plain _) hencode hreply (requestMessage_plain _) hencode' hreply'
    (by simp [b, ofConnection, hsettings]) (by simp [b, ofConnection, hsettings])
  exact ⟨_, greeting, connection, _, hgreeting, hconnection, hrun, by decide, by decide⟩

end Client

end Provisioning
