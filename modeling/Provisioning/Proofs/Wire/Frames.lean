import Provisioning.Wire.Frame

/-!
# The frames of a whole script

`frames` cuts all the bytes of a client at once: the complete frames at the front, one after the
other, and then either the fault of the first header that can never become a frame or the bytes that
are left of one. A reader that has only part of the bytes agrees with it, because what the front of
the bytes decides is not undone by bytes that come later: a fault stays a fault, and a frame that is
complete stays the first frame (`next?_append`).
-/

namespace Provisioning.Wire

/-- The complete frames at the front of the bytes, and how they end: with a fault, or with the bytes
after the last one. -/
def frames (max : Nat) (bytes : List UInt8) : List Frame × Reading (List UInt8) :=
  match h : Frame.next? max bytes with
  | .error fault => ([], .error fault)
  | .ok none => ([], .ok bytes)
  | .ok (some (frame, rest)) =>
    have := Frame.length_next? h
    (frame :: (frames max rest).1, (frames max rest).2)
  termination_by bytes.length

theorem frames_of_error {max : Nat} {bytes : List UInt8} {fault : Fault}
    (h : Frame.next? max bytes = .error fault) : frames max bytes = ([], .error fault) := by
  rw [frames]
  split
  · rename_i f hf
    rw [h, Except.error.injEq] at hf
    rw [hf]
  · rename_i hf; rw [h] at hf; exact absurd hf (by simp)
  · rename_i hf; rw [h] at hf; exact absurd hf (by simp)

theorem frames_of_none {max : Nat} {bytes : List UInt8} (h : Frame.next? max bytes = .ok none) :
    frames max bytes = ([], .ok bytes) := by
  rw [frames]
  split
  · rename_i hf; rw [h] at hf; exact absurd hf (by simp)
  · rfl
  · rename_i hf; rw [h] at hf; exact absurd hf (by simp)

theorem frames_of_some {max : Nat} {bytes rest : List UInt8} {frame : Frame}
    (h : Frame.next? max bytes = .ok (some (frame, rest))) :
    frames max bytes = (frame :: (frames max rest).1, (frames max rest).2) := by
  rw [frames]
  split
  · rename_i hf; rw [h] at hf; exact absurd hf (by simp)
  · rename_i hf; rw [h] at hf; exact absurd hf (by simp)
  · rename_i f r hf
    rw [h, Except.ok.injEq, Option.some.injEq, Prod.mk.injEq] at hf
    rw [hf.1, hf.2]

/-! ## Bytes that come later -/

/-- A header that is complete stays the header. -/
theorem declared?_append {a : List UInt8} {n : Nat} (h : declared? a = some n) (b : List UInt8) :
    declared? (a ++ b) = some n := by
  unfold declared? at h
  split at h
  · simpa [declared?] using h
  · exact absurd h (by simp)

theorem split?_append {a payload : List UInt8} {n : Nat} (h : split? a = some (n, payload))
    (b : List UInt8) : split? (a ++ b) = some (n, payload) ∧ (a ++ b).drop n = a.drop n ++ b := by
  unfold split? at h
  split at h
  · exact absurd h (by simp)
  · rename_i m hm
    split at h
    · rename_i hle
      rw [Option.some.injEq, Prod.mk.injEq] at h
      obtain ⟨rfl, hpayload⟩ := h
      have hlen : m ≤ (a ++ b).length := by
        rw [List.length_append]
        omega
      constructor
      · rw [split?, declared?_append hm]
        simp only [hle.1, hlen, and_self, if_true]
        rw [List.take_append_of_le_length hle.2, hpayload]
      · rw [List.drop_append_of_le_length hle.2]
    · exact absurd h (by simp)

theorem next?_error_append {max : Nat} {a : List UInt8} {fault : Fault}
    (h : Frame.next? max a = .error fault) (b : List UInt8) :
    Frame.next? max (a ++ b) = .error fault := by
  unfold Frame.next? at h ⊢
  split at h
  · exact absurd h (by simp)
  · rename_i n hn
    rw [declared?_append hn]
    dsimp only
    split at h
    · rename_i hsmall; rw [if_pos hsmall]; exact h
    · rename_i hsmall
      rw [if_neg hsmall]
      split at h
      · rename_i hlarge; rw [if_pos hlarge]; exact h
      · exact absurd h (by simp)

/-- A frame that is complete stays the first frame. -/
theorem next?_some_append {max : Nat} {a rest : List UInt8} {frame : Frame}
    (h : Frame.next? max a = .ok (some (frame, rest))) (b : List UInt8) :
    Frame.next? max (a ++ b) = .ok (some (frame, rest ++ b)) := by
  unfold Frame.next? at h ⊢
  split at h
  · exact absurd h (by simp)
  · rename_i n hn
    rw [declared?_append hn]
    dsimp only
    split at h
    · exact absurd h (by simp)
    · rename_i hsmall
      rw [if_neg hsmall]
      split at h
      · exact absurd h (by simp)
      · rename_i hlarge
        rw [if_neg hlarge]
        rw [Except.ok.injEq, Option.map_eq_some_iff] at h
        obtain ⟨⟨m, payload⟩, hsplit, heq⟩ := h
        rw [Prod.mk.injEq] at heq
        obtain ⟨hframe, hrest⟩ := heq
        obtain ⟨hsplit', hdrop⟩ := split?_append hsplit b
        rw [hsplit', Option.map_some, hdrop, ← hframe, hrest]

end Provisioning.Wire
