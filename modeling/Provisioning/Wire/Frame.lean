import Provisioning.Message.Envelope

/-!
# Frames

On the wire every document is preceded by four bytes, most significant first, that tell the number
of bytes of the whole frame, these four included. A reader that has less than a whole frame waits for
more; a length below four, or above the limit of the reader, can never become a frame.
-/

namespace Provisioning.Wire

/-- The number of bytes that tell the length. -/
def headerSize : Nat := 4

/-- The greatest frame that is written, and that is read where nothing else is said. -/
def maxFrameSize : Nat := 1048576

/-- The port of a server where nothing else is said. -/
def defaultPort : Nat := 1700

/-- What stands before every document on the wire. -/
def declaration : String := "<?xml version=\"1.0\" encoding=\"UTF-8\" standalone=\"no\"?>\n"

/-- A number below 2³² as four bytes. -/
def header (n : Nat) : List UInt8 :=
  [UInt8.ofNat (n / 16777216), UInt8.ofNat (n / 65536), UInt8.ofNat (n / 256), UInt8.ofNat n]

/-- The length that the first four bytes tell. -/
def declared? : List UInt8 → Option Nat
  | a :: b :: c :: d :: _ => some (((a.toNat * 256 + b.toNat) * 256 + c.toNat) * 256 + d.toNat)
  | _ => none

/-- The payload of one frame. -/
structure Frame where
  payload : List UInt8
  deriving DecidableEq

/-- The whole frame at the front of the bytes: its length and its payload. -/
def split? (bytes : List UInt8) : Option (Nat × List UInt8) :=
  match declared? bytes with
  | none => none
  | some n =>
    if headerSize ≤ n ∧ n ≤ bytes.length then some (n, (bytes.take n).drop headerSize) else none

/-- How many bytes are missing until the header, or the frame that it declares, is complete. -/
def missing (bytes : List UInt8) : Nat :=
  match declared? bytes with
  | none => headerSize - bytes.length
  | some n => n - bytes.length

namespace Frame

/-- The frame of a document, with the declaration before it. -/
def ofDocument (document : String) : Frame := ⟨Text.Utf8.encode (declaration ++ document)⟩

/-- The frame of a message. -/
def ofEnvelope (e : Envelope) : Frame := ofDocument e.toText

/-- The number that the header tells. -/
def totalLength (f : Frame) : Nat := headerSize + f.payload.length

/-- The bytes of a frame that is not too large to be written. -/
def encode (f : Frame) : Reading (List UInt8) :=
  if f.totalLength ≤ maxFrameSize then .ok (header f.totalLength ++ f.payload)
  else .error (.frameTooLarge f.totalLength maxFrameSize)

/-- The frame at the front of the bytes and what follows it; nothing when bytes are missing. -/
def next? (max : Nat) (bytes : List UInt8) : Reading (Option (Frame × List UInt8)) :=
  match declared? bytes with
  | none => .ok none
  | some n =>
    if n < headerSize then .error (.invalidFrameLength n)
    else if max < n then .error (.frameTooLarge n max)
    else .ok ((split? bytes).map fun (n, payload) => (⟨payload⟩, bytes.drop n))

/-- The message of a frame. -/
def envelope (f : Frame) : Reading Envelope := Envelope.ofBytes f.payload

end Frame

/-- The bytes of a message on the wire. -/
def encode (e : Envelope) : Reading (List UInt8) := (Frame.ofEnvelope e).encode

/-- The message of bytes that are meant to hold a whole frame. -/
def decode (bytes : List UInt8) : Reading Envelope := do
  match ← Frame.next? maxFrameSize bytes with
  | some (frame, _) => frame.envelope
  | none => .error (.incompleteFrame (missing bytes))

theorem length_header (n : Nat) : (header n).length = headerSize := rfl

/-- The length that is written is the length that is read. -/
theorem declared?_header {n : Nat} (h : n < 4294967296) (bytes : List UInt8) :
    declared? (header n ++ bytes) = some n := by
  simp only [header, declared?, List.cons_append, UInt8.toNat_ofNat', Option.some.injEq]
  omega

/-- A frame leaves less than there was. -/
theorem Frame.length_next? {max : Nat} {bytes rest : List UInt8} {f : Frame}
    (h : next? max bytes = .ok (some (f, rest))) : rest.length < bytes.length := by
  simp only [next?] at h
  split at h
  · simp at h
  · rename_i n hn
    split at h
    · simp at h
    · split at h
      · simp at h
      · simp only [split?, hn] at h
        split at h
        · rename_i hle
          simp only [Option.map_some, Except.ok.injEq, Option.some.injEq, Prod.mk.injEq] at h
          rw [← h.2, List.length_drop]
          have : 0 < n := Nat.lt_of_lt_of_le (by decide) hle.1
          omega
        · simp at h

end Provisioning.Wire
