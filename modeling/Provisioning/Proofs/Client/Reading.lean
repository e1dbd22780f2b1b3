import Provisioning.Client.Stream
import Provisioning.Proofs.Wire.Chunks

/-!
# What a client reads

What can still come to a client lies in three places: bytes that its decoder holds, pieces that it
was told of and has not taken, and bytes that the other side has not told yet. Reading moves bytes
from the last place to the first and takes at most one frame out of it; no byte is lost or passes
another on the way. So all three together, in this order (`ahead`), lose the frame that is read and
nothing else, whenever the pieces come, however the frames were cut, and whichever way the reading
ends (`read_reads`).
-/

namespace Provisioning

open Wire (Frame Decoder)

/-- The bytes of pieces, one behind the other. -/
def joined (pieces : List Piece) : List UInt8 := (pieces.map (·.bytes)).flatten

@[simp] theorem joined_nil : joined [] = [] := rfl

@[simp] theorem joined_cons (piece : Piece) (pieces : List Piece) :
    joined (piece :: pieces) = piece.bytes ++ joined pieces := rfl

@[simp] theorem joined_append (a b : List Piece) : joined (a ++ b) = joined a ++ joined b := by
  simp [joined]

/-- What the other side tells to one who waits is what it owed first, and it owes the rest. -/
def Peer.Delivers {σ : Type} (p : Peer σ) (owed : σ → List UInt8) : Prop :=
  ∀ time patience s, joined (p.await time patience s).1.pieces ++
    owed (p.await time patience s).2 = owed s

namespace Stream

variable {σ : Type}

/-- The bytes that have been told and are not decoded yet. -/
def unread (s : Stream σ) : List UInt8 := s.decoder.pending ++ joined s.coming.pieces

/-- All bytes that can still come, in their order. -/
def ahead (owed : σ → List UInt8) (s : Stream σ) : List UInt8 := s.unread ++ owed s.peer

/-! ## Decoding what is there -/

/-- What is made of bytes with a limit on frames, and the stream after it. -/
inductive Yields (max : Nat) (before : List UInt8) (s : Stream σ) :
    Option (Reading Envelope) → Prop where
  | nothing : s.unread = before → Yields max before s none
  /-- The first frame is taken out, whether or not its document can be read. -/
  | frame {f : Frame} : f.Fits max → before = f.bytes ++ s.unread → Yields max before s f.envelope
  /-- The header at the front is a fault and stays where it is. -/
  | blocked {fault : Fault} : s.unread = before → s.decoder.nextFrame.1 = .error fault →
      Yields max before s (some (.error fault))

/-- One look at the decoder. -/
theorem decode_cases (s : Stream σ) :
    s.decode = (none, s) ∨
    (∃ f d, s.decoder.nextFrame = (.ok (some f), d) ∧
      s.decode = (some f.envelope, { s with decoder := d })) ∨
    ∃ fault, s.decoder.nextFrame.1 = .error fault ∧ s.decode = (some (.error fault), s) := by
  rcases hnext : s.decoder.nextFrame with ⟨(fault | (_ | f)), d⟩
  · obtain ⟨-, rfl⟩ := Wire.nextFrame_eq_error_iff.mp hnext
    exact .inr (.inr ⟨fault, rfl, by simp only [decode, Decoder.nextEnvelope, hnext]⟩)
  · obtain ⟨-, rfl⟩ := Wire.nextFrame_eq_none_iff.mp hnext
    exact .inl (by simp only [decode, Decoder.nextEnvelope, hnext])
  · refine .inr (.inl ⟨f, d, rfl, ?_⟩)
    simp only [decode, Decoder.nextEnvelope, hnext]
    cases f.envelope <;> rfl

/-- Taking pieces changes neither the other side nor the limit on frames. -/
theorem take_keeps (limit : Nat) (pieces : List Piece) : ∀ s : Stream σ,
    (s.take limit pieces).2.peer = s.peer ∧
      (s.take limit pieces).2.decoder.max = s.decoder.max := by
  have hdecode : ∀ s : Stream σ, s.decode.2.peer = s.peer ∧ s.decode.2.decoder.max = s.decoder.max := by
    intro s
    rcases s.decode_cases with h | ⟨f, d, hnext, h⟩ | ⟨fault, -, h⟩
    · rw [h]; exact ⟨rfl, rfl⟩
    · rw [h]; exact ⟨rfl, (Wire.nextFrame_eq_some_iff.mp hnext).2.2⟩
    · rw [h]; exact ⟨rfl, rfl⟩
  induction pieces with
  | nil => exact hdecode
  | cons piece rest ih =>
      intro s
      have hs := hdecode s
      rw [take]
      rcases hd : s.decode with ⟨(_ | r), s'⟩
      · rw [hd] at hs
        dsimp only
        split
        · exact ⟨(ih _).1.trans hs.1, (ih _).2.trans hs.2⟩
        · exact hs
      · rw [hd] at hs
        exact hs

/-- **Taking pieces** yields the first frame of the bytes, or waits for more, or is blocked. -/
theorem take_yields (limit : Nat) (pieces : List Piece) : ∀ s : Stream σ,
    Yields s.decoder.max (s.decoder.pending ++ joined pieces) (s.take limit pieces).2
      (s.take limit pieces).1 := by
  induction pieces with
  | nil =>
      intro s
      rw [take]
      rcases s.decode_cases with h | ⟨f, d, hnext, h⟩ | ⟨fault, hfault, h⟩
      · rw [h]; exact .nothing rfl
      · obtain ⟨hbytes, hfits, -⟩ := Wire.nextFrame_eq_some_iff.mp hnext
        rw [h]
        exact .frame hfits (by simp [hbytes, withPieces, unread])
      · rw [h]; exact .blocked rfl hfault
  | cons piece rest ih =>
      intro s
      rw [take]
      rcases s.decode_cases with h | ⟨f, d, hnext, h⟩ | ⟨fault, hfault, h⟩
      · rw [h]
        dsimp only
        split
        · -- the bytes of the piece go from the front of the pieces to the end of the decoder
          have hmore := ih { s with
            clock := max s.clock piece.time, decoder := s.decoder.extend piece.bytes }
          simpa only [Decoder.extend, joined_cons, List.append_assoc] using hmore
        · exact .nothing rfl
      · obtain ⟨hbytes, hfits, -⟩ := Wire.nextFrame_eq_some_iff.mp hnext
        rw [h]
        exact .frame hfits (by simp [hbytes, withPieces, unread])
      · rw [h]; exact .blocked rfl hfault

/-! ## Reading a message -/

/-- What a reader is told of what was decoded. -/
def told : Reading Envelope → Except ClientFault Envelope
  | .ok e => .ok e.typed
  | .error fault => .error (.protocol fault)

/-- What one reading can come to, and the stream after it. -/
inductive Reads (owed : σ → List UInt8) (s s' : Stream σ) : Except ClientFault Envelope → Prop where
  /-- The first frame has been taken out, whether or not it holds a message. -/
  | frame {f : Frame} : f.Fits s.decoder.max → s.ahead owed = f.bytes ++ s'.ahead owed →
      Reads owed s s' (told f.envelope)
  | blocked {fault : Fault} : s'.ahead owed = s.ahead owed → s'.decoder.nextFrame.1 = .error fault →
      Reads owed s s' (.error (.protocol fault))
  | closed : s'.ahead owed = s.ahead owed → Reads owed s s' (.error .connectionClosed)
  | late : s'.ahead owed = s.ahead owed → Reads owed s s' (.error .timeout)

/-- What is yielded of all that is there is what is read. -/
theorem Yields.reads {owed : σ → List UInt8} {s s' : Stream σ} {r : Reading Envelope}
    {before : List UInt8} (h : Yields s.decoder.max before s' (some r))
    (hbefore : before ++ owed s'.peer = s.ahead owed) : Reads owed s s' (told r) := by
  cases h with
  | frame hfits hbytes =>
      exact .frame hfits (by rw [← hbefore, hbytes, ahead, List.append_assoc])
  | blocked hsame hfault => exact .blocked (by rw [← hbefore, ahead, hsame]) hfault

/-- **Reading** comes to one of these. -/
theorem read_reads {p : Peer σ} {owed : σ → List UInt8} (hp : p.Delivers owed) (s : Stream σ)
    (patience : Nat) : Reads owed s (s.read p patience).2 (s.read p patience).1 := by
  have hfirst := s.take_yields s.clock s.coming.pieces
  obtain ⟨hpeer, hmax⟩ := s.take_keeps s.clock s.coming.pieces
  unfold read
  rcases htake : s.take s.clock s.coming.pieces with ⟨(_ | r), s₁⟩
  · rw [htake] at hfirst hpeer hmax
    dsimp only at hpeer hmax ⊢
    obtain ⟨hunread⟩ := hfirst
    -- the other side tells more, which is owed no longer
    have hmore := hp s₁.clock patience s₁.peer
    have hwaited : (s₁.await p patience).ahead owed = s.ahead owed := by
      rw [ahead, ahead, unread, await, joined_append, ← List.append_assoc, List.append_assoc, hmore,
        hpeer]
      exact congrArg (· ++ owed s.peer) hunread
    have hsecond := (s₁.await p patience).take_yields (s₁.clock + patience)
      (s₁.await p patience).coming.pieces
    obtain ⟨hpeer₂, -⟩ := (s₁.await p patience).take_keeps (s₁.clock + patience)
      (s₁.await p patience).coming.pieces
    rw [show (s₁.await p patience).decoder.max = s.decoder.max from hmax] at hsecond
    rcases htake₂ : (s₁.await p patience).take (s₁.clock + patience)
      (s₁.await p patience).coming.pieces with ⟨(_ | r), s₂⟩
    · rw [htake₂] at hsecond hpeer₂
      dsimp only at hpeer₂ ⊢
      obtain ⟨hunread₂⟩ := hsecond
      have hahead : s₂.ahead owed = s.ahead owed := by
        rw [← hwaited, ahead, hunread₂, hpeer₂, ahead, unread]
      unfold giveUp
      split
      · split
        · exact .closed hahead
        · exact .late hahead
      · exact .late hahead
    · rw [htake₂] at hsecond hpeer₂
      refine hsecond.reads ?_
      rw [← hwaited, ahead, ← hpeer₂]
      rfl
  · rw [htake] at hfirst hpeer
    refine hfirst.reads ?_
    rw [hpeer]
    rfl

end Stream

end Provisioning
