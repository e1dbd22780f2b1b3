import Provisioning.Proofs.Client.Requests

/-!
# Replies that take their time

A server that answers every command at once, over a way on which each reply takes as long as it is
told to (`Peer.delayed`). It answers in the sense of `Peer.Answers`, whatever the delays
(`Delayed.answers`). What a request comes to is decided by the first reply on the way alone: it is
taken if it comes before the patience of the client ends (`Rests.request_answered`), and otherwise the
request is given up, and that reply is still on the way (`Rests.request_late`).
-/

namespace Provisioning

open Markup

/-- How long each of the next replies takes, and the replies that are on their way. -/
structure Delayed where
  delays : List Nat := []
  underway : List Piece := []

/-- The reply of success to a command that has come. -/
def echo (bytes : List UInt8) : Option (List UInt8) :=
  match Wire.decode bytes with
  | .error _ => none
  | .ok e => e.typed.command.bind fun c => (Wire.encode (.ofResponse
      (.ofCode .commandSuccessful c.transactionId "S-1"))).toOption

/-- A server that answers every command at once, and whose replies are on their way for some time. -/
def Peer.delayed : Peer Delayed where
  accept time bytes s := (echo bytes).map fun reply =>
    { delays := s.delays.tail
      underway := s.underway ++ [⟨time + s.delays.headD 0, reply⟩] }
  await _ _ s := (⟨s.underway, none⟩, { s with underway := [] })
  hangUp _ s := s

/-- The response of success to a command, as it is sent. -/
def Command.success (c : Command) : Response :=
  .ofCode .commandSuccessful (trimText c.transactionId) "S-1"

theorem Command.success_plain (c : Command) : (Envelope.ofResponse c.success).Plain := by
  refine ⟨by simp [Envelope.ofResponse], ?_⟩
  rintro r ⟨⟩
  constructor <;> simp [success, Response.ofCode]

namespace Delayed

/-- All replies that are on their way are owed. -/
def owed (s : Delayed) : List UInt8 := joined s.underway

/-- A command is answered with success, to its identifier as it has come. -/
theorem echo_eq_some_iff {c : Command} {bytes reply : List UInt8} (hc : c.Plain)
    (hencode : Wire.encode (.ofCommand c) = .ok bytes) :
    echo bytes = some reply ↔ Wire.encode (.ofResponse c.success) = .ok reply := by
  have hplain : (Envelope.ofCommand c).Plain := by
    refine ⟨?_, by simp [Envelope.ofCommand]⟩
    rintro d ⟨⟩
    exact hc
  obtain ⟨d, hdecode, htyped⟩ := Wire.decode_delivered hplain hencode
  have hcommand : d.typed.command = some c.delivered := by rw [htyped]; rfl
  rw [echo, hdecode]
  simp only [hcommand, Option.bind_some, Command.delivered]
  rw [← Command.success]
  cases Wire.encode (.ofResponse c.success) <;> simp [Except.toOption]

/-- **The delayed server answers** every command that is not ambiguous, whatever the delays. -/
theorem answers {commands : List Command} (h : ∀ c ∈ commands, c.Plain) :
    Peer.delayed.Answers owed commands where
  delivers := by
    intro time patience s
    simp [Peer.delayed, owed]
  answers := by
    intro c hc time bytes s s' hencode haccept
    obtain ⟨reply, hreply, rfl⟩ := Option.map_eq_some_iff.mp haccept
    refine ⟨c.success, reply, by simp [Command.success, Response.ofCode],
      (echo_eq_some_iff (h c hc) hencode).mp hreply,
      trimText_of_isTidy (isTidy_trimText _), by simp [owed]⟩

end Delayed

namespace Stream

/-! ## Reading from the delayed server -/

/-- The decoder is empty, and this is what else the stream holds. -/
structure Holds (s : Stream Delayed) (clock : Nat) (peer : Delayed) (pieces : List Piece) :
    Prop where
  decoder : s.decoder = {}
  clock : s.clock = clock
  peer : s.peer = peer
  pieces : s.coming.pieces = pieces

variable {s : Stream Delayed} {clock limit patience : Nat} {peer : Delayed}
  {delays : List Nat} {pieces underway rest : List Piece} {piece : Piece}

theorem decode_of_empty {σ : Type} {s : Stream σ} (h : s.decoder = {}) : s.decode = (none, s) := by
  have hnone : ({} : Wire.Decoder).nextEnvelope = (.ok none, {}) := rfl
  simp only [decode, h, hnone]
  rw [← h]

/-- Nothing is taken as long as no piece has come. -/
theorem take_early {σ : Type} {s : Stream σ} (h : s.decoder = {})
    (hearly : ∀ q ∈ pieces.head?, limit < q.time) :
    s.take limit pieces = (none, s.withPieces pieces) := by
  cases pieces with
  | nil => rw [take, decode_of_empty h]
  | cons piece rest =>
      have hlater : ¬ piece.time ≤ limit := Nat.not_le.mpr (hearly piece rfl)
      rw [take, decode_of_empty h]
      simp only [if_neg hlater]

/-- A message that has come in one piece is taken, and nothing of it is left. -/
theorem take_message {e : Envelope} (rest : List Piece) (h : s.decoder = {}) (hplain : e.Plain)
    (hencode : Wire.encode e = .ok piece.bytes) (htime : piece.time ≤ limit) :
    ∃ d, d.typed = e.delivered ∧ s.take limit (piece :: rest) = (some (.ok d),
      { s with clock := max s.clock piece.time }.withPieces rest) := by
  obtain ⟨d, hnext, htyped⟩ := Wire.nextEnvelope_delivered hplain hencode
    (Wire.length_encode_le hencode) []
  rw [List.append_nil] at hnext
  -- the bytes of the piece are all that the decoder holds when it is asked again
  have hdecode : ({ s with
      clock := max s.clock piece.time
      decoder := s.decoder.extend piece.bytes } : Stream Delayed).decode =
      (some (.ok d), { s with clock := max s.clock piece.time }) := by
    have hextend : s.decoder.extend piece.bytes = ⟨piece.bytes, Wire.maxFrameSize⟩ := by
      rw [h]; rfl
    simp only [decode, hextend, hnext]
    simp only [h]
  refine ⟨d, htyped, ?_⟩
  rw [take, decode_of_empty h]
  simp only [if_pos htime]
  cases rest <;> rw [take, hdecode]

/-- Before the first piece has come, a reader asks for what is underway. -/
theorem Holds.read_eq (h : s.Holds clock ⟨delays, underway⟩ pieces) (patience : Nat)
    (hearly : ∀ q ∈ pieces.head?, clock < q.time) :
    ∃ s' : Stream Delayed, s'.Holds clock ⟨delays, []⟩ (pieces ++ underway) ∧
      s'.coming.endsAt = none ∧ s.read Peer.delayed patience =
        match s'.take (clock + patience) (pieces ++ underway) with
        | (some r, s'') => (told r, s'')
        | (none, s'') => (.error (s''.giveUp (clock + patience)).1,
            (s''.giveUp (clock + patience)).2) := by
  obtain ⟨hdecoder, rfl, hpeer, rfl⟩ := h
  refine ⟨{ s with peer := ⟨delays, []⟩, coming := ⟨s.coming.pieces ++ underway, none⟩ },
    ⟨hdecoder, rfl, rfl, rfl⟩, rfl, ?_⟩
  have hasked : (s.withPieces s.coming.pieces).await Peer.delayed patience =
      { s with peer := ⟨delays, []⟩, coming := ⟨s.coming.pieces ++ underway, none⟩ } := by
    simp only [await, withPieces, Peer.delayed, hpeer]
  have hclock : (s.withPieces s.coming.pieces).clock = s.clock := rfl
  rw [read, take_early hdecoder hearly]
  simp only [hasked, hclock]
  rcases Stream.take _ _ _ with ⟨(_ | (fault | e)), s''⟩ <;> rfl

/-- **A reply that comes in time is read.** -/
theorem Holds.read_message (h : s.Holds clock ⟨delays, underway⟩ pieces) (patience : Nat)
    (hearly : ∀ q ∈ pieces.head?, clock < q.time) (hcoming : pieces ++ underway = piece :: rest)
    {e : Envelope} (hplain : e.Plain) (hencode : Wire.encode e = .ok piece.bytes)
    (htime : piece.time ≤ clock + patience) :
    ∃ s', s.read Peer.delayed patience = (.ok e.delivered, s') ∧
      s'.Holds (max clock piece.time) ⟨delays, []⟩ rest := by
  obtain ⟨s', hs', -, hread⟩ := h.read_eq patience hearly
  obtain ⟨d, htyped, htake⟩ := take_message rest hs'.decoder hplain hencode htime
  rw [hread, hcoming, htake]
  refine ⟨{ s' with clock := max s'.clock piece.time }.withPieces rest, ?_, hs'.decoder, ?_,
    hs'.peer, rfl⟩
  · rw [← htyped]; rfl
  · rw [← hs'.clock]; rfl

/-- **A reply that is late is left where it is.** -/
theorem Holds.read_late (h : s.Holds clock ⟨delays, underway⟩ pieces) (patience : Nat)
    (hearly : ∀ q ∈ pieces.head?, clock < q.time) (hcoming : pieces ++ underway = piece :: rest)
    (hlate : clock + patience < piece.time) :
    ∃ s', s.read Peer.delayed patience = (.error .timeout, s') ∧
      s'.Holds (clock + patience) ⟨delays, []⟩ (piece :: rest) := by
  obtain ⟨s', hs', hends, hread⟩ := h.read_eq patience hearly
  have htake : s'.take (clock + patience) (piece :: rest) = (none, s'.withPieces (piece :: rest)) :=
    take_early hs'.decoder (by rintro q ⟨⟩; exact hlate)
  rw [hread, hcoming, htake]
  simp only [giveUp, withPieces, hends]
  exact ⟨_, rfl, hs'.decoder, rfl, hs'.peer, rfl⟩

/-- The reply to a command is underway once the command has been written. -/
theorem Holds.write {d : Nat} (h : s.Holds clock ⟨d :: delays, underway⟩ pieces) {c : Command}
    {bytes reply : List UInt8} (hc : c.Plain) (hencode : Wire.encode (.ofCommand c) = .ok bytes)
    (hreply : Wire.encode (.ofResponse c.success) = .ok reply) :
    ∃ s', s.write Peer.delayed (.ofCommand c) = .ok s' ∧
      s'.Holds clock ⟨delays, underway ++ [⟨clock + d, reply⟩]⟩ pieces := by
  have hecho := (Delayed.echo_eq_some_iff hc hencode).mpr hreply
  obtain ⟨hdecoder, rfl, hpeer, hpieces⟩ := h
  refine ⟨{ s with
    peer := ⟨delays, underway ++ [⟨s.clock + d, reply⟩]⟩
    sent := s.sent ++ [.ofCommand c] }, ?_, hdecoder, rfl, rfl, hpieces⟩
  simp only [Stream.write, hencode, Peer.delayed, hecho, Option.map_some, hpeer, List.tail_cons,
      List.headD_cons]

end Stream

namespace Connection

/-! ## Requests to the delayed server -/

/-- Requests are written, the decoder is empty and no reply is underway, but pieces may be left that
have been told. -/
structure Rests (c : Connection Delayed) (clock : Nat) (delays : List Nat) (pieces : List Piece) :
    Prop where
  connected : c.connected = true
  isOpen : c.isOpen = true
  stream : c.stream.Holds clock ⟨delays, []⟩ pieces

variable {c : Connection Delayed} {clock d : Nat} {delays : List Nat} {pieces rest : List Piece}
  {piece : Piece} {command : Command} {bytes reply : List UInt8}

/-- **The first reply that is coming is taken**, whichever command it is the reply to. -/
theorem Rests.request_answered (h : c.Rests clock (d :: delays) pieces)
    (hcommand : command.Plain) (hencode : Wire.encode (.ofCommand command) = .ok bytes)
    (hreply : Wire.encode (.ofResponse command.success) = .ok reply)
    (hearly : ∀ q ∈ pieces.head?, clock < q.time)
    (hcoming : pieces ++ [⟨clock + d, reply⟩] = piece :: rest) {other : Command}
    (hother : Wire.encode (.ofResponse other.success) = .ok piece.bytes)
    (htime : piece.time ≤ clock + c.settings.readTimeout) :
    ∃ c', request Peer.delayed (.ofCommand command) c = (.ok other.success.delivered, c') ∧
      c'.settings = c.settings ∧ c'.Rests (max clock piece.time) delays rest := by
  obtain ⟨s, hwrite, hs⟩ := h.stream.write hcommand hencode hreply
  rw [List.nil_append] at hs
  obtain ⟨s', hread, hs'⟩ := hs.read_message _ hearly hcoming other.success_plain hother htime
  rw [request_eq, exchange_eq h.connected h.isOpen, hwrite]
  dsimp only
  rw [hread]
  refine ⟨_, rfl, rfl, ?_, h.isOpen, hs'⟩
  rw [h.connected]
  rfl

/-- **A request whose reply is late is given up**, and the connection goes on with that reply still
to come. -/
theorem Rests.request_late (h : c.Rests clock (d :: delays) [])
    (hcommand : command.Plain) (hencode : Wire.encode (.ofCommand command) = .ok bytes)
    (hreply : Wire.encode (.ofResponse command.success) = .ok reply)
    (hlate : c.settings.readTimeout < d) :
    ∃ c', request Peer.delayed (.ofCommand command) c = (.error .timeout, c') ∧
      c'.settings = c.settings ∧
      c'.Rests (clock + c.settings.readTimeout) delays [⟨clock + d, reply⟩] := by
  obtain ⟨s, hwrite, hs⟩ := h.stream.write hcommand hencode hreply
  rw [List.nil_append] at hs
  obtain ⟨s', hread, hs'⟩ := hs.read_late c.settings.readTimeout (by simp) rfl
    (by dsimp only; omega)
  rw [request_eq, exchange_eq h.connected h.isOpen, hwrite]
  dsimp only
  rw [hread]
  refine ⟨_, rfl, rfl, ?_, h.isOpen, hs'⟩
  rw [h.connected]
  rfl

/-- A client that is greeted at once begins with nothing underway. -/
theorem ofStream_delayed {g : Greeting} {greeting : List UInt8}
    (hgreeting : Wire.encode (.ofGreeting g) = .ok greeting) (delays : List Nat) :
    ∃ c, ofStream Peer.delayed {} ⟨delays, [⟨0, greeting⟩]⟩ = .ok c ∧ c.settings = {} ∧
      c.Rests 0 delays [] := by
  have hplain : (Envelope.ofGreeting g).Plain :=
    ⟨by simp [Envelope.ofGreeting], by simp [Envelope.ofGreeting]⟩
  let settings : ConnectionSettings := {}
  have hholds : ({ peer := ⟨delays, [⟨0, greeting⟩]⟩, decoder := { max := settings.maxFrameSize } }
      : Stream Delayed).Holds 0 ⟨delays, [⟨0, greeting⟩]⟩ [] := ⟨rfl, rfl, rfl, rfl⟩
  obtain ⟨s, hread, hs⟩ := hholds.read_message settings.readTimeout (by simp) rfl
    hplain hgreeting (by simp)
  refine ⟨{ greeting := g.delivered, stream := s }, ?_, rfl, rfl, rfl, hs⟩
  rw [ofStream]
  dsimp only
  rw [hread]
  rfl

end Connection

end Provisioning
