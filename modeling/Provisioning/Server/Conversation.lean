import Provisioning.Server.ServerFault
import Provisioning.Wire.Decoder

/-!
# Serving one client

Two activities share a connection. The reader takes the pieces of bytes that have come, cuts frames
out of them and puts what they hold into a queue of limited length. The session greets, takes one
message after the other out of the queue and writes its reply. A fault of the framing ends the reader
and not the session, which still answers what is queued.

Each activity is a step that may or may not be possible, so that every order in which the two take
turns is a sequence of steps. Each step makes a conversation smaller (`weight_readerStep?`,
`weight_sessionStep?`), so `settle` comes to the point where nothing is possible until more comes
from the client. Time passes only there.
-/

namespace Provisioning

/-- How patient a server is with one client. -/
structure Limits where
  /-- How long a client may take to log in, in milliseconds. -/
  idleTimeout : Nat := 300000
  /-- How many messages wait at most. -/
  queueCapacity : Nat := 100
  maxFrameSize : Nat := Wire.maxFrameSize
  deriving DecidableEq

namespace Limits

/-- The limits of a server's settings. -/
def ofSettings (n : NetworkSettings) : Limits :=
  ⟨n.idleTimeout.toNat * 1000, n.queueCapacity.toNat, n.maxFrameSize.toNat⟩

/-- The length of the queue, which holds at least one message. -/
def room (l : Limits) : Nat := max 1 l.queueCapacity

end Limits

/-- How a server or its reader has ended. -/
abbrev Ending := Except ServerFault Unit

structure Conversation where
  /-- The pieces that have come and have not been read. -/
  unread : List (List UInt8) := []
  /-- Nothing more comes from the client. -/
  ended : Bool := false
  /-- What is written gets to the client. -/
  listening : Bool := true
  decoder : Wire.Decoder := {}
  /-- How the reader has ended, if it has. -/
  outcome : Option Ending := none
  /-- The messages that wait for the session. -/
  queue : List Inbound := []
  session : Session
  /-- The messages that have been written, the first one first. -/
  sent : List Envelope := []
  /-- How the conversation has ended, if it has. -/
  result : Option Ending := none
  /-- The time, in milliseconds. -/
  clock : Nat := 0
  /-- The time since which the session has been waiting. -/
  waitingSince : Nat := 0

namespace Conversation

/-- A client has connected. -/
def start (l : Limits) (connection : UInt64) : Conversation :=
  { decoder := { max := l.maxFrameSize }, session := { connection } }

/-! ## The reader -/

/-- The reader takes a frame to the queue if there is room, or reads on if it has no whole frame. -/
def readerStep? (l : Limits) (c : Conversation) : Option Conversation :=
  if c.result.isSome || c.outcome.isSome then none
  else
    match c.decoder.nextFrame with
    | (.error fault, _) => some { c with outcome := some (.error (.protocol fault)) }
    | (.ok (some frame), decoder) =>
      if c.queue.length < l.room then
        some { c with decoder, queue := c.queue ++ [.ofPayload frame.payload] }
      else none
    | (.ok none, _) =>
      match c.unread with
      | piece :: unread => some { c with decoder := c.decoder.extend piece, unread }
      | [] =>
        if c.ended then
          some { c with
            outcome := some (if c.decoder.buffered = 0 then .ok () else .error .connectionClosed) }
        else none

/-! ## The session -/

/-- Writes a message. -/
def write (c : Conversation) (e : Envelope) : Conversation :=
  match Wire.encode e with
  | .error fault => { c with result := some (.error (.protocol fault)) }
  | .ok _ =>
    if c.listening then { c with sent := c.sent ++ [e] }
    else { c with result := some (.error (.transport .brokenPipe)) }

/-- The time at which the client has taken too long, if the session waits for it to log in. -/
def deadline? (l : Limits) (c : Conversation) : Option Nat :=
  if c.result.isNone && c.session.state == .waitingForClient then
    some (c.waitingSince + l.idleTimeout)
  else none

/-- The client has taken too long. -/
def isLate (l : Limits) (c : Conversation) : Bool :=
  match c.deadline? l with
  | some deadline => deadline ≤ c.clock
  | none => false

/-- The session greets, answers the next message, or ends. A client that has taken too long is not
waited for, even if what it has sent could still be read. -/
def sessionStep? (v : Service) (l : Limits) (now : Calendar.Instant) (c : Conversation) :
    Option Conversation :=
  if c.result.isSome then none
  else
    match c.session.state with
    | .prepareGreeting =>
      some ({ c with
        session := c.session.moveTo .waitingForClient
        waitingSince := c.clock }.write (v.greeting now))
    | .closeConnection => some { c with result := some (.ok ()) }
    | _ =>
      match c.queue with
      | inbound :: queue =>
        let (reply, session) := v.handle now c.session inbound
        some ({ c with queue, session, waitingSince := c.clock }.write reply)
      | [] =>
        if c.isLate l then some { c with result := some (.error .clientTimeout) }
        else c.outcome.map fun outcome => { c with result := some outcome }

/-! ## Both together -/

/-- What is still to be done. A byte counts most, then a message that waits. -/
def weight (c : Conversation) : Nat :=
  c.unread.length + 3 * c.unread.flatten.length + 3 * c.decoder.pending.length +
    2 * c.queue.length + (if c.outcome.isNone then 1 else 0) +
    (if c.session.state = .prepareGreeting then 1 else 0) + (if c.result.isNone then 1 else 0)

theorem weight_readerStep? {l : Limits} {c d : Conversation} (h : c.readerStep? l = some d) :
    d.weight < c.weight := by
  simp only [readerStep?] at h
  split at h
  · simp at h
  · rename_i hend
    simp only [Bool.or_eq_true, not_or, Bool.not_eq_true, Option.isSome_eq_false_iff] at hend
    split at h
    · simp only [Option.some.injEq] at h
      subst h
      simp [weight, hend.2]
    · rename_i frame decoder hnext
      split at h
      · simp only [Option.some.injEq] at h
        subst h
        simp only [Wire.Decoder.nextFrame] at hnext
        split at hnext <;> simp at hnext
        rename_i frame' rest heq
        have := Wire.Frame.length_next? heq
        simp only [weight, List.length_append, List.length_singleton, ← hnext.2]
        omega
      · simp at h
    · split at h
      · rename_i piece unread hunread
        simp only [Option.some.injEq] at h
        subst h
        simp only [weight, hunread, Wire.Decoder.extend, List.length_append, List.length_cons,
          List.flatten_cons]
        omega
      · split at h
        · simp only [Option.some.injEq] at h
          subst h
          simp [weight, hend.2]
        · simp at h

theorem weight_write (c : Conversation) (e : Envelope) : (c.write e).weight ≤ c.weight := by
  simp only [write]
  split
  · simp [weight]
  · split <;> simp [weight]

theorem weight_sessionStep? {v : Service} {l : Limits} {now : Calendar.Instant}
    {c d : Conversation} (h : c.sessionStep? v l now = some d) : d.weight < c.weight := by
  simp only [sessionStep?] at h
  split at h
  · simp at h
  · rename_i hend
    simp only [Bool.not_eq_true, Option.isSome_eq_false_iff] at hend
    split at h
    · rename_i hstate
      simp only [Option.some.injEq] at h
      subst h
      refine Nat.lt_of_le_of_lt (weight_write _ _) ?_
      simp [weight, hstate, Session.moveTo]
    · simp only [Option.some.injEq] at h
      subst h
      simp [weight, hend]
    · split at h
      · rename_i inbound queue hqueue
        simp only [Option.some.injEq] at h
        subst h
        refine Nat.lt_of_le_of_lt (weight_write _ _) ?_
        have : (if (v.handle now c.session inbound).2.state = .prepareGreeting then 1 else 0) ≤ 1 := by
          split <;> decide
        simp only [weight, hqueue, List.length_cons]
        omega
      · split at h
        · simp only [Option.some.injEq] at h
          subst h
          simp [weight, hend]
        · simp only [Option.map_eq_some_iff] at h
          obtain ⟨outcome, _, h⟩ := h
          subst h
          simp [weight, hend]

/-- The session goes first. -/
def next? (v : Service) (l : Limits) (now : Calendar.Instant) (c : Conversation) :
    Option Conversation :=
  (c.sessionStep? v l now).or (c.readerStep? l)

theorem weight_next? {v : Service} {l : Limits} {now : Calendar.Instant} {c d : Conversation}
    (h : c.next? v l now = some d) : d.weight < c.weight := by
  rcases Option.or_eq_some_iff.1 h with h | ⟨_, h⟩
  · exact weight_sessionStep? h
  · exact weight_readerStep? h

/-- Goes on until nothing is possible. -/
def settle (v : Service) (l : Limits) (now : Calendar.Instant) (c : Conversation) :
    Conversation :=
  match _ : c.next? v l now with
  | some d => d.settle v l now
  | none => c
termination_by c.weight
decreasing_by exact weight_next? ‹_›

/-! ## The client and the time -/

/-- Time passes, with nothing possible, until a time that is not in the past. -/
def passTo (l : Limits) (c : Conversation) (time : Nat) : Conversation :=
  let late := match c.deadline? l with
    | some deadline => decide (deadline < time)
    | none => false
  { c with
    clock := time
    result := if late then some (.error .clientTimeout) else c.result }

/-- Bytes come. -/
def receive (c : Conversation) (bytes : List UInt8) : Conversation :=
  { c with unread := c.unread ++ [bytes] }

/-- What a client does. -/
inductive Act where
  | wait (ms : Nat)
  | send (bytes : List UInt8)
  deriving DecidableEq

def act (v : Service) (l : Limits) (now : Calendar.Instant) (c : Conversation) :
    Act → Conversation
  | .wait ms => c.passTo l (c.clock + ms)
  | .send bytes => (c.receive bytes).settle v l now

/-- The conversation with a client that does some things, writes nothing more, and still listens. -/
def run (v : Service) (l : Limits) (now : Calendar.Instant) (connection : UInt64)
    (acts : List Act) : Conversation :=
  let c := acts.foldl (act v l now) ((start l connection).settle v l now)
  { c with ended := true }.settle v l now

end Conversation

end Provisioning
