import Provisioning.Client.Stream

/-!
# Connections to a server

A connection begins with the greeting that the server sends first. A request writes one message and
takes the next message that comes for its reply. Two things are remembered: whether the stream is
still open, and whether the session is known to go on. The session does not go on after the server
has gone away, after a response that ends it, and after the client has closed; then requests are
refused and nothing is written for them.
-/

namespace Provisioning

structure ConnectionSettings where
  /-- How long a reply may take, in milliseconds. -/
  readTimeout : Nat := 30000
  /-- How many bytes are read at once. -/
  readBufferSize : Nat := 8192
  maxFrameSize : Nat := Wire.maxFrameSize
  deriving DecidableEq

namespace ConnectionSettings

def leastBufferSize : Nat := 1024

def greatestBufferSize : Nat := 1048576

/-- The settings with the permitted buffer size that is next to a size. -/
def withReadBufferSize (s : ConnectionSettings) (size : Nat) : ConnectionSettings :=
  { s with readBufferSize := max leastBufferSize (min size greatestBufferSize) }

end ConnectionSettings

structure Connection (σ : Type) where
  settings : ConnectionSettings := {}
  /-- The greeting that came first. -/
  greeting : Greeting
  stream : Stream σ
  /-- The stream has not been closed by the client. -/
  isOpen : Bool := true
  /-- The session is known to go on. -/
  connected : Bool := true

namespace Connection

/-- A call on something that changes, also when it fails. -/
abbrev Call (κ α : Type) := ExceptT ClientFault (StateM κ) α

variable {σ : Type} (p : Peer σ)

/-- Waits for the greeting. Where none comes, the other side is left as it is once the client has
gone. -/
def ofStream (settings : ConnectionSettings) (peer : σ) :
    Except (ClientFault × σ) (Connection σ) :=
  let s : Stream σ := { peer, decoder := { max := settings.maxFrameSize } }
  match s.read p settings.readTimeout with
  | (.error fault, s) => .error (fault, p.hangUp s.clock s.peer)
  | (.ok e, stream) =>
    match e.greeting with
    | some greeting => .ok { settings, greeting, stream }
    | none =>
      .error (.unexpectedMessage ("expected greeting, got " ++ e.tag.text),
        p.hangUp stream.clock stream.peer)

def requireOpen : Call (Connection σ) Unit := do
  unless (← get).isOpen do throw .notConnected

/-- Writes one message. -/
def send (e : Envelope) : Call (Connection σ) Unit := do
  requireOpen
  let c ← get
  match c.stream.write p e with
  | .ok stream => set { c with stream }
  | .error fault => throw fault

/-- Takes the next message in its typed form. -/
def receive : Call (Connection σ) Envelope := do
  requireOpen
  let c ← get
  let (r, stream) := c.stream.read p c.settings.readTimeout
  match r with
  | .ok e =>
    set { c with stream }
    return e
  | .error fault =>
    set { c with stream, connected := c.connected && decide (fault ≠ ClientFault.connectionClosed) }
    throw fault

/-- Writes a message and takes whatever comes next. -/
def exchange (e : Envelope) : Call (Connection σ) Envelope := do
  unless (← get).connected do throw .notConnected
  send p e
  receive p

/-- Writes a message and takes its response. -/
def request (e : Envelope) : Call (Connection σ) Response := do
  let reply ← exchange p e
  match reply.response with
  | none => throw (.unexpectedMessage ("expected response, got " ++ reply.tag.text))
  | some r =>
    modify fun c => { c with connected := c.connected && !r.isFatal }
    return r

/-- Asks for the greeting again. -/
def hello : Call (Connection σ) Greeting := do
  let reply ← exchange p .askGreeting
  match reply.tag, reply.greeting with
  | .greeting, some g => return g
  | .greeting, none => throw (.unexpectedMessage "empty greeting")
  | tag, _ => throw (.unexpectedMessage ("expected greeting, got " ++ tag.text))

/-- The connection after the client has closed it. -/
def closed (c : Connection σ) : Connection σ :=
  let peer := if c.isOpen then p.hangUp c.stream.clock c.stream.peer else c.stream.peer
  { c with stream := { c.stream with peer }, isOpen := false, connected := false }

def close : Call (Connection σ) Unit := modify (closed p)

end Connection

end Provisioning
