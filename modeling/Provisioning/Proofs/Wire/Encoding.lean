import Provisioning.Proofs.Text.Utf8
import Provisioning.Wire.Decoder

/-!
# A frame that is written is read

The header tells the length of the whole frame, so the reader takes exactly the payload and leaves
what follows. The payload is the declaration and the document in UTF-8; reading a written message is
therefore reading its text again.
-/

namespace Provisioning.Wire

/-- The bytes of a frame, its header before its payload. -/
def Frame.bytes (f : Frame) : List UInt8 := header f.totalLength ++ f.payload

theorem Frame.length_bytes (f : Frame) : f.bytes.length = f.totalLength := by
  rw [bytes, List.length_append, length_header, totalLength]

/-- What is written of a frame is its bytes, unless it is too large. -/
theorem Frame.encode_eq_ok_iff {f : Frame} {bytes : List UInt8} :
    f.encode = .ok bytes ↔ f.totalLength ≤ maxFrameSize ∧ bytes = f.bytes := by
  unfold Frame.encode Frame.bytes
  split
  · rename_i hle; simp [hle, eq_comm]
  · rename_i hle; simp [hle]

/-- A frame that the reader accepts, and whose length four bytes can tell, is the first frame of what
begins with it. -/
theorem next?_frame {max : Nat} {f : Frame} (h : f.totalLength ≤ max)
    (htold : f.totalLength < 4294967296) (rest : List UInt8) :
    Frame.next? max (f.bytes ++ rest) = .ok (some (f, rest)) := by
  unfold Frame.bytes
  have hdeclared := declared?_header htold (f.payload ++ rest)
  have hlength : (header f.totalLength).length = headerSize := length_header _
  rw [← List.append_assoc] at hdeclared
  have hwhole : f.totalLength = (header f.totalLength ++ f.payload).length := by
    rw [List.length_append, hlength, Frame.totalLength]
  have hsmall : ¬ f.totalLength < headerSize := by simp [Frame.totalLength]
  have hle : headerSize ≤ f.totalLength ∧
      f.totalLength ≤ (header f.totalLength ++ f.payload ++ rest).length := by
    rw [List.length_append, ← hwhole]
    omega
  have htake : (header f.totalLength ++ f.payload ++ rest).take f.totalLength =
      header f.totalLength ++ f.payload := List.take_left' hwhole.symm
  have hdrop : (header f.totalLength ++ f.payload ++ rest).drop f.totalLength = rest :=
    List.drop_left' hwhole.symm
  have hpayload : (header f.totalLength ++ f.payload).drop headerSize = f.payload :=
    List.drop_left' hlength
  simp only [Frame.next?, hdeclared, hsmall, if_false, Nat.not_lt.mpr h, split?, hle, and_self,
    if_true, htake, hdrop, hpayload, Option.map_some]

/-- The frame of a short message is no larger than allowed, whatever its characters. -/
theorem totalLength_le {e : Envelope}
    (h : headerSize + 4 * (declaration.length + (e.toElement.print 0).length) ≤ maxFrameSize) :
    (Frame.ofEnvelope e).totalLength ≤ maxFrameSize := by
  have hlen := Text.Utf8.length_encode_le (declaration ++ e.toText)
  rw [String.length_append, Envelope.toText, Markup.Element.toText_eq, String.length_ofList] at hlen
  simp only [Frame.totalLength, Frame.ofEnvelope, Frame.ofDocument, Envelope.toText,
    Markup.Element.toText_eq]
  omega

/-- A message can be written when its frame is no larger than allowed. -/
theorem encode_of_totalLength {e : Envelope}
    (h : (Frame.ofEnvelope e).totalLength ≤ maxFrameSize) : ∃ bytes, encode e = .ok bytes :=
  ⟨_, by rw [encode, Frame.encode, if_pos h]⟩

/-- What is written of a message is its frame. -/
theorem encode_eq_ok_iff {e : Envelope} {bytes : List UInt8} :
    encode e = .ok bytes ↔ (Frame.ofEnvelope e).totalLength ≤ maxFrameSize ∧
      bytes = (Frame.ofEnvelope e).bytes := Frame.encode_eq_ok_iff

theorem length_encode {e : Envelope} {bytes : List UInt8} (h : encode e = .ok bytes) :
    bytes.length = (Frame.ofEnvelope e).totalLength := by
  rw [(encode_eq_ok_iff.mp h).2, Frame.length_bytes]

theorem length_encode_le {e : Envelope} {bytes : List UInt8} (h : encode e = .ok bytes) :
    bytes.length ≤ maxFrameSize := by
  rw [length_encode h]
  exact (encode_eq_ok_iff.mp h).1

/-- A reader that accepts frames of this length takes a written message for the first one. -/
theorem next?_of_encode {max : Nat} {e : Envelope} {bytes : List UInt8} (h : encode e = .ok bytes)
    (hmax : bytes.length ≤ max) (rest : List UInt8) :
    Frame.next? max (bytes ++ rest) = .ok (some (Frame.ofEnvelope e, rest)) := by
  obtain ⟨hle, hbytes⟩ := encode_eq_ok_iff.mp h
  rw [length_encode h] at hmax
  rw [hbytes]
  exact next?_frame hmax (Nat.lt_of_le_of_lt hle (by decide)) rest

/-- The payload of a message is read as its text again. -/
theorem envelope_ofEnvelope (e : Envelope) :
    (Frame.ofEnvelope e).envelope = Envelope.ofText (declaration ++ e.toText) := by
  simp only [Frame.envelope, Frame.ofEnvelope, Frame.ofDocument, Envelope.ofBytes,
    Text.Utf8.decode_encode]

/-- **Reading a written message is reading its text again.** -/
theorem decode_of_encode {e : Envelope} {bytes : List UInt8} (h : encode e = .ok bytes) :
    decode bytes = Envelope.ofText (declaration ++ e.toText) := by
  have hnext := next?_of_encode h (length_encode_le h) []
  rw [List.append_nil] at hnext
  unfold decode
  rw [hnext]
  exact envelope_ofEnvelope e

/-- A decoder takes a written message out of what it holds, and leaves what follows. -/
theorem nextEnvelope_of_encode {max : Nat} {e : Envelope} {bytes : List UInt8}
    (h : encode e = .ok bytes) (hmax : bytes.length ≤ max) (rest : List UInt8) :
    (⟨bytes ++ rest, max⟩ : Decoder).nextEnvelope = ((decode bytes).map some, ⟨rest, max⟩) := by
  rw [decode_of_encode h, ← envelope_ofEnvelope]
  simp only [Decoder.nextEnvelope, Decoder.nextFrame, next?_of_encode h hmax]

end Provisioning.Wire
