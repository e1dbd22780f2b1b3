import Provisioning.Client.ClientFault
import Provisioning.Wire.Decoder

/-!
# A client's end of a stream

The other side is known by what it does: it takes bytes, and when it is waited for it tells all that
will come from it if nothing more is written to it, each piece with its time. A client reads such
pieces until they make a message, and as long as its patience lasts: at the moment at which it ends
the client still sees what has come, but not that the other side closes just then. Times are in
milliseconds, and time passes only while a client waits.
-/

namespace Provisioning

/-- Bytes that come at a time. -/
structure Piece where
  time : Nat
  bytes : List UInt8
  deriving DecidableEq

/-- What is still to come: pieces in the order of their times, and when the other side closes. -/
structure Coming where
  pieces : List Piece := []
  endsAt : Option Nat := none
  deriving DecidableEq

/-- What the other side of a stream does, given its state. -/
structure Peer (σ : Type) where
  /-- Takes bytes at a time, unless it is gone. -/
  accept : Nat → List UInt8 → σ → Option σ
  /-- Tells at a time what comes if nothing more is written, to one who waits so long. -/
  await : (time patience : Nat) → σ → Coming × σ
  /-- Sees at a time that the client is gone. -/
  hangUp : Nat → σ → σ

/-- A peer that has everything it will ever send in readiness and takes whatever is written. -/
def Peer.recorded : Peer Coming where
  accept _ _ rest := some rest
  await _ _ rest := (rest, { rest with pieces := [] })
  hangUp _ rest := rest

structure Stream (σ : Type) where
  peer : σ
  clock : Nat := 0
  coming : Coming := {}
  decoder : Wire.Decoder := {}
  /-- The messages that have been written, the first one first. -/
  sent : List Envelope := []

namespace Stream

variable {σ : Type}

/-- Writes a message. Nothing is written of one that is too large. -/
def write (p : Peer σ) (s : Stream σ) (e : Envelope) : Except ClientFault (Stream σ) :=
  match Wire.encode e with
  | .error fault => .error (.protocol fault)
  | .ok bytes =>
    match p.accept s.clock bytes s.peer with
    | none => .error (.transport .brokenPipe)
    | some peer => .ok { s with peer, sent := s.sent ++ [e] }

/-- The next message of the bytes that have been read. -/
def decode (s : Stream σ) : Option (Reading Envelope) × Stream σ :=
  match s.decoder.nextEnvelope with
  | (.error fault, decoder) => (some (.error fault), { s with decoder })
  | (.ok (some e), decoder) => (some (.ok e), { s with decoder })
  | (.ok none, decoder) => (none, { s with decoder })

def withPieces (s : Stream σ) (pieces : List Piece) : Stream σ :=
  { s with coming := { s.coming with pieces } }

/-- Reads pieces, of those that come until a time, until they make a message. -/
def take (s : Stream σ) (limit : Nat) : List Piece → Option (Reading Envelope) × Stream σ
  | [] =>
    let (r, s) := s.decode
    (r, s.withPieces [])
  | piece :: rest =>
    match s.decode with
    | (some r, s) => (some r, s.withPieces (piece :: rest))
    | (none, s) =>
      if piece.time ≤ limit then
        { s with
          clock := max s.clock piece.time
          decoder := s.decoder.extend piece.bytes }.take limit rest
      else (none, s.withPieces (piece :: rest))

/-- Asks the other side what comes. -/
def await (p : Peer σ) (s : Stream σ) (patience : Nat) : Stream σ :=
  let (more, peer) := p.await s.clock patience s.peer
  { s with peer, coming := ⟨s.coming.pieces ++ more.pieces, more.endsAt⟩ }

/-- What a reader is told when no message has come until a time: the other side has closed, or it is
too late. -/
def giveUp (s : Stream σ) (deadline : Nat) : ClientFault × Stream σ :=
  match s.coming.endsAt with
  | some time =>
    if time ≤ s.clock || time < deadline then (.connectionClosed, { s with clock := max s.clock time })
    else (.timeout, { s with clock := deadline })
  | none => (.timeout, { s with clock := deadline })

/-- The next message in its typed form. The other side is waited for only if what has come already
does not make a message. -/
def read (p : Peer σ) (s : Stream σ) (patience : Nat) : Except ClientFault Envelope × Stream σ :=
  let answer (r : Reading Envelope) : Except ClientFault Envelope :=
    match r with
    | .ok e => .ok e.typed
    | .error fault => .error (.protocol fault)
  match s.take s.clock s.coming.pieces with
  | (some r, s) => (answer r, s)
  | (none, s) =>
    let deadline := s.clock + patience
    let s := s.await p patience
    match s.take deadline s.coming.pieces with
    | (some r, s) => (answer r, s)
    | (none, s) =>
      let (fault, s) := s.giveUp deadline
      (.error fault, s)

end Stream

end Provisioning
