import Provisioning.Proofs.Message.DocumentFaults
import Provisioning.Proofs.Wire.Chunks
import Provisioning.Proofs.Wire.Frames

/-!
# Missing bytes are counted exactly

One who decodes bytes as a whole frame is told how many are missing, if any are. `Lacks` says how many
that is without the decoder: up to the four bytes of a header while there is no header, and then up to
the length that it tells, if a frame may have that length. No other fault of the decoder says that
bytes are missing, a faulty document inside the frame included, so the count is right whenever it is
given and given whenever it is right (`decode_eq_incomplete_iff`).

Bytes that come later bring the count down one by one. Once the header is there, the bytes that were
asked for complete the frame whatever they are; so one who always brings what was asked for is asked
twice at most, first for the rest of the header and then for the rest of the frame.
-/

namespace Provisioning.Wire

/-- The first four bytes tell this number, the most significant byte first. -/
def Declares (bytes : List UInt8) (n : Nat) : Prop :=
  ∃ a b c d tail, bytes = a :: b :: c :: d :: tail ∧
    n = a.toNat * 16777216 + b.toNat * 65536 + c.toNat * 256 + d.toNat

/-- So many bytes are missing: the rest of a header, or the rest of a frame whose header is there. -/
inductive Lacks (bytes : List UInt8) : Nat → Prop where
  | header : bytes.length < 4 → Lacks bytes (4 - bytes.length)
  | frame {n : Nat} : Declares bytes n → 4 ≤ n → n ≤ maxFrameSize → bytes.length < n →
      Lacks bytes (n - bytes.length)

theorem declares_iff {bytes : List UInt8} {n : Nat} : Declares bytes n ↔ declared? bytes = some n := by
  constructor
  · rintro ⟨a, b, c, d, tail, rfl, rfl⟩
    simp only [declared?, Option.some.injEq]
    omega
  · intro h
    unfold declared? at h
    split at h
    · rename_i a b c d tail
      rw [Option.some.injEq] at h
      exact ⟨a, b, c, d, tail, rfl, by omega⟩
    · exact absurd h (by simp)

theorem Declares.unique {bytes : List UInt8} {m n : Nat} (hm : Declares bytes m)
    (hn : Declares bytes n) : m = n :=
  Option.some.inj ((declares_iff.mp hm).symm.trans (declares_iff.mp hn))

theorem Declares.append {bytes : List UInt8} {n : Nat} (h : Declares bytes n)
    (more : List UInt8) : Declares (bytes ++ more) n :=
  declares_iff.mpr (declared?_append (declares_iff.mp h) more)

theorem Declares.take {bytes : List UInt8} {n : Nat} (h : Declares bytes n) (hn : 4 ≤ n) :
    Declares (bytes.take n) n := by
  obtain ⟨a, b, c, d, tail, rfl, hvalue⟩ := h
  obtain ⟨m, rfl⟩ := Nat.exists_eq_add_of_le' hn
  exact ⟨a, b, c, d, tail.take m, by simp, hvalue⟩

theorem Declares.four_le {bytes : List UInt8} {n : Nat} (h : Declares bytes n) :
    4 ≤ bytes.length := by
  obtain ⟨a, b, c, d, tail, rfl, -⟩ := h
  simp

/-- Nothing is missing of a frame that is there as a whole. -/
theorem Declares.not_lacks {bytes : List UInt8} {n : Nat} (h : Declares bytes n)
    (hlen : n ≤ bytes.length) (k : Nat) : ¬ Lacks bytes k := by
  rintro (hshort | ⟨hm, -, -, hless⟩)
  · have := h.four_le
    omega
  · have := h.unique hm
    omega

/-! ## What the decoder says -/

/-- Bytes are missing exactly where a reader would wait, and the count is the decoder's. -/
theorem lacks_iff {bytes : List UInt8} {k : Nat} :
    Lacks bytes k ↔ Frame.next? maxFrameSize bytes = .ok none ∧ missing bytes = k := by
  rw [next?_eq_none_iff]
  constructor
  · rintro (hshort | ⟨hn, hsmall, hlarge, hlen⟩)
    · refine ⟨.short hshort, ?_⟩
      rw [missing, declared?_eq_none_iff.mpr hshort]
      rfl
    · have hdeclared := declares_iff.mp hn
      obtain ⟨htold, tail, rfl⟩ := declared?_eq_some_iff.mp hdeclared
      refine ⟨.begun htold hsmall hlarge hlen, ?_⟩
      rw [missing, hdeclared]
  · rintro ⟨hending, rfl⟩
    cases hending with
    | short hshort =>
        rw [missing, declared?_eq_none_iff.mpr hshort]
        exact .header hshort
    | begun htold hsmall hlarge hlen =>
        rw [missing, declared?_header htold]
        exact .frame (declares_iff.mpr (declared?_header htold _)) hsmall hlarge hlen

/-- **The decoder tells exactly how many bytes are missing**, and only if some are. -/
theorem decode_eq_incomplete_iff {bytes : List UInt8} {k : Nat} :
    decode bytes = .error (.incompleteFrame k) ↔ Lacks bytes k := by
  rw [lacks_iff]
  unfold decode
  cases hnext : Frame.next? maxFrameSize bytes with
  | error fault =>
      -- a header that is at fault is reported as such
      have hfault : fault ≠ .incompleteFrame k := by
        rintro rfl
        cases next?_eq_error_iff.mp hnext
      simpa [bind, Except.bind] using hfault
  | ok found =>
      cases found with
      | none => simp [bind, Except.bind]
      | some p =>
          obtain ⟨frame, rest⟩ := p
          have hdocument : frame.envelope ≠ .error (.incompleteFrame k) := fun h =>
            absurd (Envelope.ofBytes_faults frame.payload _ h) (by simp [Fault.isOfFrame])
          simpa [bind, Except.bind] using hdocument

/-- What the decoder says of bytes none of which are missing is not changed by those that follow. -/
theorem decode_append {bytes : List UInt8} (h : ∀ k, ¬ Lacks bytes k) (more : List UInt8) :
    decode (bytes ++ more) = decode bytes := by
  unfold decode
  cases hnext : Frame.next? maxFrameSize bytes with
  | error fault =>
      rw [next?_error_append hnext]
      rfl
  | ok found =>
      cases found with
      | none => exact absurd (lacks_iff.mpr ⟨hnext, rfl⟩) (h _)
      | some p =>
          obtain ⟨frame, rest⟩ := p
          rw [next?_some_append hnext]
          rfl

/-! ## Bytes that come later -/

namespace Lacks

variable {bytes more : List UInt8} {k : Nat}

theorem pos (h : Lacks bytes k) : 1 ≤ k := by
  cases h <;> omega

/-- Fewer bytes than are missing bring the count down by as many. -/
theorem append (h : Lacks bytes k) (hmore : more.length < k) :
    Lacks (bytes ++ more) (k - more.length) := by
  have hlen : (bytes ++ more).length = bytes.length + more.length := List.length_append
  cases h with
  | header hshort =>
      have hstill : Lacks (bytes ++ more) (4 - (bytes ++ more).length) := .header (by omega)
      rwa [hlen, Nat.sub_add_eq] at hstill
  | frame hn hsmall hlarge hshort =>
      have hstill := Lacks.frame (hn.append more) hsmall hlarge (by omega)
      rwa [hlen, Nat.sub_add_eq] at hstill

/-- The bytes that are missing from a frame complete it. -/
theorem filled (h : Lacks bytes k) (hheader : 4 ≤ bytes.length) (hmore : more.length = k) (j : Nat) :
    ¬ Lacks (bytes ++ more) j := by
  have hlen : (bytes ++ more).length = bytes.length + more.length := List.length_append
  cases h with
  | header hshort => omega
  | frame hn => exact (hn.append more).not_lacks (by omega) j

/-- The bytes that are missing from a header complete it. -/
theorem header_filled (h : Lacks bytes k) (hmore : more.length = k) : 4 ≤ (bytes ++ more).length := by
  rw [List.length_append]
  cases h with
  | header => omega
  | frame hn => have := hn.four_le; omega

end Lacks

/-- From the first bytes to the last, the decoder has asked for more so many times, and each time was
given as many as it had asked for. -/
inductive Requested : Nat → List UInt8 → List UInt8 → Prop where
  | never {bytes : List UInt8} : Requested 0 bytes bytes
  | once_more {rounds k : Nat} {bytes more last : List UInt8} :
      decode bytes = .error (.incompleteFrame k) → more.length = k →
      Requested rounds (bytes ++ more) last → Requested (rounds + 1) bytes last

/-- Once the header is there the decoder asks once at most, and then no bytes are missing. -/
theorem Requested.le_one {rounds : Nat} {bytes last : List UInt8} (h : Requested rounds bytes last)
    (hheader : 4 ≤ bytes.length) : rounds ≤ 1 ∧ (rounds = 1 → ∀ k, ¬ Lacks last k) := by
  cases h with
  | never => exact ⟨by omega, by simp⟩
  | once_more hask hmore hrest =>
      have hfilled := (decode_eq_incomplete_iff.mp hask).filled hheader hmore
      cases hrest with
      | never => exact ⟨by omega, fun _ => hfilled⟩
      | once_more hagain => exact absurd (decode_eq_incomplete_iff.mp hagain) (hfilled _)

/-- **The decoder asks twice at most**, and after that no bytes are missing. -/
theorem Requested.le_two {rounds : Nat} {bytes last : List UInt8} (h : Requested rounds bytes last) :
    rounds ≤ 2 ∧ (rounds = 2 → ∀ k, ¬ Lacks last k) := by
  cases h with
  | never => exact ⟨by omega, by simp⟩
  | once_more hask hmore hrest =>
      obtain ⟨hle, hend⟩ := hrest.le_one ((decode_eq_incomplete_iff.mp hask).header_filled hmore)
      exact ⟨by omega, fun hrounds => hend (by omega)⟩

/--
**Missing bytes are counted exactly.** Decoding tells that bytes are missing exactly if there are
fewer than four, or the first four tell a length from four to the limit that the bytes do not reach;
the count is the difference, and at least one. Fewer bytes than were asked for bring the count down by
as many, and the bytes that were asked for complete the frame if its header was there, whatever they
are. Asking comes to an end after two rounds, with a message or another fault. What follows the first
frame does not matter.
-/
theorem missing_bytes_are_counted :
    (∀ bytes k, decode bytes = .error (.incompleteFrame k) ↔
      bytes.length < 4 ∧ k = 4 - bytes.length ∨
      ∃ n, Declares bytes n ∧ 4 ≤ n ∧ n ≤ maxFrameSize ∧ bytes.length < n ∧
        k = n - bytes.length) ∧
    (∀ bytes k, decode bytes = .error (.incompleteFrame k) →
      1 ≤ k ∧
      (∀ more : List UInt8, more.length < k →
        decode (bytes ++ more) = .error (.incompleteFrame (k - more.length))) ∧
      (4 ≤ bytes.length → ∀ more : List UInt8, more.length = k →
        ∀ j, decode (bytes ++ more) ≠ .error (.incompleteFrame j))) ∧
    (∀ rounds bytes last, Requested rounds bytes last → rounds ≤ 2 ∧
      (rounds = 2 → ∀ k, decode last ≠ .error (.incompleteFrame k))) ∧
    (∀ bytes, (∀ k, decode bytes ≠ .error (.incompleteFrame k)) →
      ∀ more, decode (bytes ++ more) = decode bytes) ∧
    ∀ bytes n, Declares bytes n → 4 ≤ n → n ≤ bytes.length →
      decode bytes = decode (bytes.take n) := by
  simp only [ne_eq, decode_eq_incomplete_iff]
  refine ⟨?_, fun bytes k h => ⟨h.pos, fun more => h.append, fun hheader more => h.filled hheader⟩,
    fun rounds bytes last h => h.le_two, fun bytes h more => decode_append h more, ?_⟩
  · intro bytes k
    constructor
    · rintro (hshort | ⟨hn, hsmall, hlarge, hlen⟩)
      · exact .inl ⟨hshort, rfl⟩
      · exact .inr ⟨_, hn, hsmall, hlarge, hlen, rfl⟩
    · rintro (⟨hshort, rfl⟩ | ⟨n, hn, hsmall, hlarge, hlen, rfl⟩)
      · exact .header hshort
      · exact .frame hn hsmall hlarge hlen
  · intro bytes n hn hsmall hlen
    have hwhole : n ≤ (bytes.take n).length := by
      rw [List.length_take]
      omega
    have hsame := decode_append ((hn.take hsmall).not_lacks hwhole) (bytes.drop n)
    rwa [List.take_append_drop] at hsame

/-- Half a header, one byte more, then a header whose frame has one byte more, then that byte,
whatever it is; and a frame of nothing but a header, with a byte after it. -/
theorem missing_bytes_are_counted_twice :
    decode [0, 0] = .error (.incompleteFrame 2) ∧
    decode [0, 0, 0] = .error (.incompleteFrame 1) ∧
    decode [0, 0, 0, 5] = .error (.incompleteFrame 1) ∧
    (∀ byte k, decode [0, 0, 0, 5, byte] ≠ .error (.incompleteFrame k)) ∧
    decode [0, 0, 0, 4, 60] = decode [0, 0, 0, 4] := by
  obtain ⟨htold, hlater, hrounds, -, hfirst⟩ := missing_bytes_are_counted
  have hhalf : decode [0, 0] = .error (.incompleteFrame 2) := (htold _ 2).mpr (.inl (by decide))
  have hheader : decode [0, 0, 0, 5] = .error (.incompleteFrame 1) :=
    (htold _ 1).mpr (.inr ⟨5, ⟨0, 0, 0, 5, [], rfl, rfl⟩, by decide⟩)
  have hmore : decode [0, 0, 0] = .error (.incompleteFrame 1) :=
    (hlater _ 2 hhalf).2.1 [0] (by decide)
  refine ⟨hhalf, hmore, hheader, ?_, hfirst _ 4 ⟨0, 0, 0, 4, [60], rfl, rfl⟩ (by decide) (by decide)⟩
  intro byte
  have hlast : Requested 1 ([0, 0] ++ [0, 5]) [0, 0, 0, 5, byte] := .once_more hheader rfl .never
  have hasked : Requested 2 [0, 0] [0, 0, 0, 5, byte] := .once_more hhalf rfl hlast
  exact (hrounds 2 _ _ hasked).2 rfl

end Provisioning.Wire
