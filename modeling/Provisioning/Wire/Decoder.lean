import Provisioning.Wire.Frame

/-!
# Decoding a stream

A decoder keeps the bytes that have come and have not been decoded yet. Nothing else is remembered,
so how the bytes were cut into pieces on their way cannot be told from it. A frame is taken out as a
whole; a header that can never become a frame stays where it is.
-/

namespace Provisioning.Wire

structure Decoder where
  /-- The bytes that are not decoded yet. -/
  pending : List UInt8 := []
  /-- The greatest frame that is accepted. -/
  max : Nat := maxFrameSize
  deriving DecidableEq

namespace Decoder

/-- More bytes have come. -/
def extend (d : Decoder) (bytes : List UInt8) : Decoder :=
  { d with pending := d.pending ++ bytes }

/-- All bytes are forgotten. -/
def clear (d : Decoder) : Decoder := { d with pending := [] }

def buffered (d : Decoder) : Nat := d.pending.length

def missing (d : Decoder) : Nat := Wire.missing d.pending

/-- The next frame, if it is complete, and the decoder without it. -/
def nextFrame (d : Decoder) : Reading (Option Frame) × Decoder :=
  match Frame.next? d.max d.pending with
  | .error fault => (.error fault, d)
  | .ok none => (.ok none, d)
  | .ok (some (frame, rest)) => (.ok (some frame), { d with pending := rest })

/-- The message of the next frame. The frame is taken out also when its document is faulty. -/
def nextEnvelope (d : Decoder) : Reading (Option Envelope) × Decoder :=
  match d.nextFrame with
  | (.error fault, d) => (.error fault, d)
  | (.ok none, d) => (.ok none, d)
  | (.ok (some frame), d) => (frame.envelope.map some, d)

theorem extend_nil (d : Decoder) : d.extend [] = d := by simp [extend]

/-- Bytes that come in two pieces are the bytes that come in one. -/
theorem extend_append (d : Decoder) (a b : List UInt8) :
    d.extend (a ++ b) = (d.extend a).extend b := by simp [extend]

end Decoder

end Provisioning.Wire
