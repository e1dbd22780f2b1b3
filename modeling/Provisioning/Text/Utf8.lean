/-!
# UTF-8

Decoding reads one character at a time and says where the bytes stop being UTF-8 and how many of
them form the ill-formed sequence; a sequence that the end of the input cuts off is reported
apart.
-/

namespace Provisioning.Text.Utf8

/-- How bytes fail to be UTF-8. -/
inductive Fault where
  /-- `length` bytes from `index` on start no character. -/
  | invalid (length index : Nat)
  /-- The bytes from `index` to the end start a character and do not finish it. -/
  | incomplete (index : Nat)
  deriving DecidableEq

/-- The text of a fault. -/
def Fault.message : Fault → String
  | .invalid length index => s!"invalid utf-8 sequence of {length} bytes from index {index}"
  | .incomplete index => s!"incomplete utf-8 byte sequence from index {index}"

/-- A byte that can only continue a character. -/
def isContinuation (b : UInt8) : Bool := 0x80 ≤ b && b ≤ 0xBF

/-- The second bytes that may follow a lead byte of a character of three or four bytes. They
exclude overlong forms, surrogates and code points beyond the last one. -/
def secondBounds (lead : UInt8) : UInt8 × UInt8 :=
  if lead == 0xE0 then (0xA0, 0xBF)
  else if lead == 0xED then (0x80, 0x9F)
  else if lead == 0xF0 then (0x90, 0xBF)
  else if lead == 0xF4 then (0x80, 0x8F)
  else (0x80, 0xBF)

/-- The number of bytes of the character that a lead byte starts. -/
def width? (lead : UInt8) : Option Nat :=
  if lead < 0x80 then some 1
  else if 0xC2 ≤ lead && lead ≤ 0xDF then some 2
  else if 0xE0 ≤ lead && lead ≤ 0xEF then some 3
  else if 0xF0 ≤ lead && lead ≤ 0xF4 then some 4
  else none

/-- The six payload bits of a continuation byte. -/
def payload (b : UInt8) : Nat := b.toNat % 64

/-- What the front of the bytes gives. -/
inductive Step where
  | char (c : Char) (rest : List UInt8)
  | invalid (length : Nat)
  | incomplete

/-- Reads the character that starts with `lead`. -/
def step (lead : UInt8) (rest : List UInt8) : Step :=
  let (low, high) := secondBounds lead
  match width? lead, rest with
  | some 1, rest => .char (Char.ofNat lead.toNat) rest
  | some 2, [] => .incomplete
  | some 2, b :: rest =>
    if isContinuation b then .char (Char.ofNat (lead.toNat % 32 * 64 + payload b)) rest
    else .invalid 1
  | some 3, [] => .incomplete
  | some 3, b :: rest =>
    if low ≤ b && b ≤ high then
      match rest with
      | [] => .incomplete
      | c :: rest =>
        if isContinuation c then
          .char (Char.ofNat ((lead.toNat % 16 * 64 + payload b) * 64 + payload c)) rest
        else .invalid 2
    else .invalid 1
  | some 4, [] => .incomplete
  | some 4, b :: rest =>
    if low ≤ b && b ≤ high then
      match rest with
      | [] => .incomplete
      | c :: rest =>
        if isContinuation c then
          match rest with
          | [] => .incomplete
          | d :: rest =>
            if isContinuation d then
              .char (Char.ofNat (((lead.toNat % 8 * 64 + payload b) * 64 + payload c) * 64
                + payload d)) rest
            else .invalid 3
        else .invalid 2
    else .invalid 1
  | _, _ => .invalid 1

/-- A character takes at least its lead byte from the input. -/
theorem step_length {lead : UInt8} {bytes rest : List UInt8} {c : Char}
    (h : step lead bytes = .char c rest) : rest.length ≤ bytes.length := by
  unfold step at h
  grind

/-- Reads characters up to the end or the first fault, counting the bytes before it. -/
def decodeFrom (index : Nat) (acc : List Char) : List UInt8 → Except Fault (List Char)
  | [] => .ok acc.reverse
  | lead :: bytes =>
    match h : step lead bytes with
    | .char c rest =>
      have := step_length h
      decodeFrom (index + c.utf8Size) (c :: acc) rest
    | .invalid length => .error (.invalid length index)
    | .incomplete => .error (.incomplete index)
  termination_by bytes => bytes.length

/-- The text that the bytes encode. -/
def decode (bytes : List UInt8) : Except Fault String :=
  (decodeFrom 0 [] bytes).map String.ofList

/-- The bytes of a text. -/
def encode (s : String) : List UInt8 :=
  s.toList.flatMap String.utf8EncodeChar

end Provisioning.Text.Utf8
