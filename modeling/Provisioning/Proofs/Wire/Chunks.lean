import Mathlib.Data.List.Forall2
import Mathlib.Data.List.Induction
import Provisioning.Proofs.Wire.Encoding
import Provisioning.Wire.Decoder

/-!
# How the bytes were cut cannot be told from the frames

The bytes of a stream come in pieces, and after each piece a decoder is asked for frames until it has
none, or reports a fault (`Feeds`). What comes out depends on the bytes alone. `Cut` says what that is
without a decoder: whole frames, each with its header before it, one behind the other, and then a rest
that no frame begins (`Ending`) because it is too short, or because its header tells a length that no
frame of this reader has.

The proof never compares two ways of cutting. Each of them is compared with `Cut`: what a decoder has
yielded so far, and what it still holds, is always a cut of all the bytes that have come
(`Feeds.cut`), a string of bytes has one cut only (`Cut.unique`), and a decoder that is asked for
frames always comes to an end (`exists_drains`), since a frame that is taken out leaves fewer bytes.

A fault stays. The header it is about is left where it is, so that it is still the first thing in the
decoder whatever comes later (`Decoder.Later.faulty`).
-/

namespace Provisioning.Wire

/-- The reader accepts frames of this length, and four bytes can tell it. -/
def Frame.Fits (max : Nat) (f : Frame) : Prop := f.totalLength ≤ max ∧ f.totalLength < 4294967296

/-- What stands behind the last frame, and how it ends the stream: bytes of a frame that is not
complete yet, or a header that can never begin a frame. -/
inductive Ending (max : Nat) : List UInt8 → Reading Unit → Prop where
  /-- The header itself is not complete. -/
  | short {rest : List UInt8} : rest.length < headerSize → Ending max rest (.ok ())
  /-- The header tells a length that is fine, and there are fewer bytes. -/
  | begun {n : Nat} {tail : List UInt8} :
      n < 4294967296 → headerSize ≤ n → n ≤ max → (header n ++ tail).length < n →
      Ending max (header n ++ tail) (.ok ())
  | tooSmall {n : Nat} {tail : List UInt8} :
      n < headerSize → Ending max (header n ++ tail) (.error (.invalidFrameLength n))
  | tooLarge {n : Nat} {tail : List UInt8} :
      n < 4294967296 → headerSize ≤ n → max < n →
      Ending max (header n ++ tail) (.error (.frameTooLarge n max))

/-- The bytes are these frames, one behind the other, and a rest that ends the stream. -/
structure Cut (max : Nat) (bytes : List UInt8) (frames : List Frame) (outcome : Reading Unit)
    (rest : List UInt8) : Prop where
  whole : bytes = (frames.map Frame.bytes).flatten ++ rest
  fits : ∀ f ∈ frames, f.Fits max
  ending : Ending max rest outcome

/-! ## Asking a decoder for frames -/

/-- A decoder is asked until it has no frame: what it yielded, how it ended, what it has become. -/
inductive Drains : Decoder → List Frame → Reading Unit → Decoder → Prop where
  | starved {d d' : Decoder} : d.nextFrame = (.ok none, d') → Drains d [] (.ok ()) d'
  | faulty {d d' : Decoder} {fault : Fault} :
      d.nextFrame = (.error fault, d') → Drains d [] (.error fault) d'
  | frame {d d' d'' : Decoder} {f : Frame} {fs : List Frame} {outcome : Reading Unit} :
      d.nextFrame = (.ok (some f), d') → Drains d' fs outcome d'' →
      Drains d (f :: fs) outcome d''

/-- Pieces come one after the other, and after each of them the decoder is asked for frames. How
that ended is told by the last piece. -/
inductive Feeds : Decoder → List (List UInt8) → List Frame → Reading Unit → Decoder → Prop where
  | start {d : Decoder} : Feeds d [] [] (.ok ()) d
  | piece {d d₁ d₂ : Decoder} {pieces : List (List UInt8)} {piece : List UInt8}
      {fs gs : List Frame} {o outcome : Reading Unit} :
      Feeds d pieces fs o d₁ → Drains (d₁.extend piece) gs outcome d₂ →
      Feeds d (pieces ++ [piece]) (fs ++ gs) outcome d₂

/-- What a decoder can become when more bytes come and it is asked again, in any order. -/
inductive Decoder.Later (d : Decoder) : Decoder → Prop where
  | now : d.Later d
  | extend {d' : Decoder} (bytes : List UInt8) : d.Later d' → d.Later (d'.extend bytes)
  | asked {d' : Decoder} : d.Later d' → d.Later d'.nextFrame.2

/-! ## What the first bytes say -/

/-- Four bytes are the header of the number that they tell. -/
theorem declared?_eq_some_iff {bytes : List UInt8} {n : Nat} :
    declared? bytes = some n ↔ n < 4294967296 ∧ ∃ tail, bytes = header n ++ tail := by
  constructor
  · intro h
    unfold declared? at h
    split at h
    · rename_i a b c e tail
      rw [Option.some.injEq] at h
      have ha := a.toNat_lt
      have hb := b.toNat_lt
      have hc := c.toNat_lt
      have he := e.toNat_lt
      refine ⟨by omega, tail, ?_⟩
      have hbyte : ∀ (x : UInt8) (m : Nat), m % 256 = x.toNat → UInt8.ofNat m = x := by
        intro x m hm
        rw [← UInt8.toNat_inj, UInt8.toNat_ofNat']
        exact hm
      rw [header, hbyte a _ (by omega), hbyte b _ (by omega), hbyte c _ (by omega),
        hbyte e _ (by omega)]
      rfl
    · exact absurd h (by simp)
  · rintro ⟨hn, tail, rfl⟩
    exact declared?_header hn tail

theorem declared?_eq_none_iff {bytes : List UInt8} :
    declared? bytes = none ↔ bytes.length < headerSize := by
  unfold declared?
  split
  · simp [headerSize]
  · rename_i hshort
    refine ⟨fun _ => ?_, fun _ => rfl⟩
    match bytes, hshort with
    | [], _ => simp [headerSize]
    | [_], _ => simp [headerSize]
    | [_, _], _ => simp [headerSize]
    | [_, _, _], _ => simp [headerSize]
    | a :: b :: c :: e :: tail, hshort => exact absurd rfl (hshort a b c e tail)

/-- A frame is taken out exactly where one that fits stands at the front. -/
theorem next?_eq_some_iff {max : Nat} {bytes rest : List UInt8} {f : Frame} :
    Frame.next? max bytes = .ok (some (f, rest)) ↔ bytes = f.bytes ++ rest ∧ f.Fits max := by
  constructor
  · intro h
    unfold Frame.next? at h
    split at h
    · exact absurd h (by simp)
    · rename_i n hn
      split at h
      · exact absurd h (by simp)
      · rename_i hsmall
        split at h
        · exact absurd h (by simp)
        · rename_i hlarge
          rw [Except.ok.injEq, split?, hn] at h
          dsimp only at h
          split at h
          · rename_i hle
            simp only [Option.map_some, Option.some.injEq, Prod.mk.injEq] at h
            obtain ⟨rfl, rfl⟩ := h
            obtain ⟨htold, tail, rfl⟩ := declared?_eq_some_iff.mp hn
            have hlen : (header n).length = headerSize := length_header n
            have htotal : Frame.totalLength ⟨((header n ++ tail).take n).drop headerSize⟩ = n := by
              rw [Frame.totalLength, List.length_drop, List.length_take, Nat.min_eq_left hle.2]
              omega
            refine ⟨?_, by rw [htotal]; omega, by rw [htotal]; exact htold⟩
            have hhead : (header n ++ tail).take n = header n ++ tail.take (n - headerSize) := by
              rw [List.take_append, hlen, List.take_of_length_le (by omega)]
            rw [Frame.bytes, htotal, hhead, List.drop_left' hlen, ← hhead, List.take_append_drop]
          · exact absurd h (by simp)
  · rintro ⟨rfl, hmax, htold⟩
    exact next?_frame hmax htold rest

/-- The reader waits exactly where the bytes end a stream without a fault. -/
theorem next?_eq_none_iff {max : Nat} {rest : List UInt8} :
    Frame.next? max rest = .ok none ↔ Ending max rest (.ok ()) := by
  constructor
  · intro h
    unfold Frame.next? at h
    split at h
    · rename_i hnone
      exact .short (declared?_eq_none_iff.mp hnone)
    · rename_i n hn
      obtain ⟨htold, tail, rfl⟩ := declared?_eq_some_iff.mp hn
      split at h
      · exact absurd h (by simp)
      · split at h
        · exact absurd h (by simp)
        · rw [Except.ok.injEq, Option.map_eq_none_iff, split?, hn] at h
          dsimp only at h
          split at h
          · exact absurd h (by simp)
          · exact .begun htold (by omega) (by omega) (by omega)
  · intro h
    cases h with
    | short hlen => rw [Frame.next?, declared?_eq_none_iff.mpr hlen]
    | @begun n tail hn hsmall hlarge hlen =>
        have hwhole : ¬ (headerSize ≤ n ∧ n ≤ (header n ++ tail).length) := by omega
        simp only [Frame.next?, declared?_header hn, if_neg (Nat.not_lt.mpr hsmall),
          if_neg (Nat.not_lt.mpr hlarge), split?, if_neg hwhole, Option.map_none]

/-- The reader reports exactly the fault with which the bytes end a stream. -/
theorem next?_eq_error_iff {max : Nat} {rest : List UInt8} {fault : Fault} :
    Frame.next? max rest = .error fault ↔ Ending max rest (.error fault) := by
  constructor
  · intro h
    unfold Frame.next? at h
    split at h
    · exact absurd h (by simp)
    · rename_i n hn
      obtain ⟨htold, tail, rfl⟩ := declared?_eq_some_iff.mp hn
      split at h
      · rename_i hsmall
        rw [Except.error.injEq] at h
        exact h ▸ .tooSmall hsmall
      · split at h
        · rename_i hlarge
          rw [Except.error.injEq] at h
          exact h ▸ .tooLarge htold (by omega) hlarge
        · exact absurd h (by simp)
  · intro h
    cases h with
    | @tooSmall n tail hn =>
        have htold : n < 4294967296 := Nat.lt_trans hn (by decide)
        simp only [Frame.next?, declared?_header htold, if_pos hn]
    | @tooLarge n tail hn hsmall hlarge =>
        simp only [Frame.next?, declared?_header hn, if_neg (Nat.not_lt.mpr hsmall), if_pos hlarge]

/-! ## What one call does -/

/-- A call that yields no frame leaves the decoder as it was. -/
theorem nextFrame_unchanged {d : Decoder} (h : ∀ f, d.nextFrame.1 ≠ .ok (some f)) :
    d.nextFrame.2 = d := by
  unfold Decoder.nextFrame at h ⊢
  split
  · rfl
  · rfl
  · rename_i f rest hnext
    rw [hnext] at h
    exact absurd rfl (h f)

theorem nextFrame_eq_some_iff {d d' : Decoder} {f : Frame} :
    d.nextFrame = (.ok (some f), d') ↔
      d.pending = f.bytes ++ d'.pending ∧ f.Fits d.max ∧ d'.max = d.max := by
  unfold Decoder.nextFrame
  constructor
  · intro h
    split at h
    · exact absurd h (by simp)
    · exact absurd h (by simp)
    · rename_i g rest hnext
      rw [Prod.mk.injEq, Except.ok.injEq, Option.some.injEq] at h
      obtain ⟨rfl, rfl⟩ := h
      obtain ⟨hbytes, hfits⟩ := next?_eq_some_iff.mp hnext
      exact ⟨hbytes, hfits, rfl⟩
  · rintro ⟨hbytes, hfits, hmax⟩
    rw [next?_eq_some_iff.mpr ⟨hbytes, hfits⟩]
    dsimp only
    rw [← hmax]

/-- A decoder waits, and stays as it is, exactly when what it holds ends a stream without a fault. -/
theorem nextFrame_eq_none_iff {d d' : Decoder} :
    d.nextFrame = (.ok none, d') ↔ Ending d.max d.pending (.ok ()) ∧ d' = d := by
  rw [← next?_eq_none_iff]
  unfold Decoder.nextFrame
  split
  · rename_i hnext; simp [hnext]
  · rename_i hnext; simp [hnext, eq_comm]
  · rename_i hnext; simp [hnext]

theorem nextFrame_eq_error_iff {d d' : Decoder} {fault : Fault} :
    d.nextFrame = (.error fault, d') ↔ Ending d.max d.pending (.error fault) ∧ d' = d := by
  rw [← next?_eq_error_iff]
  unfold Decoder.nextFrame
  split
  · rename_i hnext; simp [hnext, eq_comm]
  · rename_i hnext; simp [hnext]
  · rename_i hnext; simp [hnext]

/-! ## A stream has one cut -/

theorem Ending.nil {max : Nat} : Ending max [] (.ok ()) := .short (by decide)

/-- Where a stream ends, no frame that fits begins. -/
theorem Ending.not_frame {max : Nat} {rest more : List UInt8} {outcome : Reading Unit} {f : Frame}
    (h : Ending max rest outcome) (hfits : f.Fits max) : rest ≠ f.bytes ++ more := by
  intro hrest
  have hsome := next?_eq_some_iff.mpr ⟨hrest, hfits⟩
  cases outcome with
  | ok _ => rw [next?_eq_none_iff.mpr h] at hsome; exact absurd hsome (by simp)
  | error fault => rw [next?_eq_error_iff.mpr h] at hsome; exact absurd hsome (by simp)

theorem Ending.unique {max : Nat} {rest : List UInt8} {o o' : Reading Unit}
    (h : Ending max rest o) (h' : Ending max rest o') : o = o' := by
  have told : ∀ {o}, Ending max rest o → Frame.next? max rest = o.map fun _ => none := by
    intro o h
    cases o with
    | ok _ => exact next?_eq_none_iff.mpr h
    | error fault => exact next?_eq_error_iff.mpr h
  have heq := (told h).symm.trans (told h')
  cases o <;> cases o' <;> simp_all [Except.map]

/-- The first of two frames at the front of the same bytes is the same frame. -/
theorem Frame.bytes_append_inj {max : Nat} {f g : Frame} {a b : List UInt8} (hf : f.Fits max)
    (hg : g.Fits max) (h : f.bytes ++ a = g.bytes ++ b) : f = g ∧ a = b := by
  have hnext : Frame.next? max (f.bytes ++ a) = .ok (some (f, a)) :=
    next?_eq_some_iff.mpr ⟨rfl, hf⟩
  rw [next?_eq_some_iff.mpr ⟨h, hg⟩] at hnext
  simp only [Except.ok.injEq, Option.some.injEq, Prod.mk.injEq] at hnext
  exact ⟨hnext.1.symm, hnext.2.symm⟩

/-- **A string of bytes has one cut.** -/
theorem Cut.unique {max : Nat} {fs gs : List Frame} : ∀ {bytes rest rest' : List UInt8}
    {o o' : Reading Unit}, Cut max bytes fs o rest → Cut max bytes gs o' rest' →
      fs = gs ∧ o = o' ∧ rest = rest' := by
  induction fs generalizing gs with
  | nil =>
      intro bytes rest rest' o o' h h'
      cases gs with
      | nil =>
          have hrest : rest = rest' := by simpa using h.whole.symm.trans h'.whole
          exact ⟨rfl, h.ending.unique (hrest ▸ h'.ending), hrest⟩
      | cons g gs =>
          have hbytes := h.whole.symm.trans h'.whole
          rw [List.map_nil, List.flatten_nil, List.nil_append, List.map_cons, List.flatten_cons,
            List.append_assoc] at hbytes
          exact absurd hbytes (h.ending.not_frame (h'.fits g (by simp)))
  | cons f fs ih =>
      intro bytes rest rest' o o' h h'
      cases gs with
      | nil =>
          have hbytes := h'.whole.symm.trans h.whole
          rw [List.map_nil, List.flatten_nil, List.nil_append, List.map_cons, List.flatten_cons,
            List.append_assoc] at hbytes
          exact absurd hbytes (h'.ending.not_frame (h.fits f (by simp)))
      | cons g gs =>
          have hbytes := h.whole.symm.trans h'.whole
          rw [List.map_cons, List.flatten_cons, List.append_assoc, List.map_cons,
            List.flatten_cons, List.append_assoc] at hbytes
          obtain ⟨rfl, hmore⟩ :=
            Frame.bytes_append_inj (h.fits f (by simp)) (h'.fits g (by simp)) hbytes
          obtain ⟨rfl, hrest⟩ := ih
            ⟨rfl, fun k hk => h.fits k (by simp [hk]), h.ending⟩
            ⟨hmore, fun k hk => h'.fits k (by simp [hk]), h'.ending⟩
          exact ⟨rfl, hrest⟩

/-- A cut may be continued: what ends the bytes so far is cut together with those that follow. -/
theorem Cut.append {max : Nat} {a b rest rest' : List UInt8} {fs gs : List Frame}
    {o outcome : Reading Unit} (h : Cut max a fs o rest)
    (h' : Cut max (rest ++ b) gs outcome rest') : Cut max (a ++ b) (fs ++ gs) outcome rest' where
  whole := by
    rw [h.whole, List.append_assoc, h'.whole, List.map_append, List.flatten_append,
      List.append_assoc]
  fits := by
    intro f hf
    rcases List.mem_append.mp hf with hf | hf
    · exact h.fits f hf
    · exact h'.fits f hf
  ending := h'.ending

/-! ## Every way of cutting gives the cut -/

theorem Drains.cut {d d' : Decoder} {fs : List Frame} {outcome : Reading Unit}
    (h : Drains d fs outcome d') :
    Cut d.max d.pending fs outcome d'.pending ∧ d'.max = d.max := by
  induction h with
  | starved hnext =>
      obtain ⟨hending, rfl⟩ := nextFrame_eq_none_iff.mp hnext
      exact ⟨⟨rfl, by simp, hending⟩, rfl⟩
  | faulty hnext =>
      obtain ⟨hending, rfl⟩ := nextFrame_eq_error_iff.mp hnext
      exact ⟨⟨rfl, by simp, hending⟩, rfl⟩
  | @frame d d' d'' f fs outcome hnext _ ih =>
      obtain ⟨hbytes, hfits, hmax⟩ := nextFrame_eq_some_iff.mp hnext
      obtain ⟨hcut, hmax'⟩ := ih
      rw [hmax] at hcut hmax'
      refine ⟨⟨?_, ?_, hcut.ending⟩, hmax'⟩
      · rw [hbytes, hcut.whole, List.map_cons, List.flatten_cons, List.append_assoc]
      · intro g hg
        rcases List.mem_cons.mp hg with rfl | hg
        · exact hfits
        · exact hcut.fits g hg

/-- What was yielded and what is left is a cut of all the bytes that have come. -/
theorem Feeds.cut {max : Nat} {pieces : List (List UInt8)} {fs : List Frame}
    {outcome : Reading Unit} {d : Decoder} (h : Feeds ⟨[], max⟩ pieces fs outcome d) :
    Cut max pieces.flatten fs outcome d.pending ∧ d.max = max := by
  -- the invariant is the cut of what has come, so only the last piece has to be looked at
  induction h with
  | start => exact ⟨⟨rfl, by simp, Ending.nil⟩, rfl⟩
  | @piece d₁ d₂ pieces piece fs gs o outcome _ hdrains ih =>
      obtain ⟨hcut, hmax⟩ := ih
      obtain ⟨hmore, hmax'⟩ := hdrains.cut
      rw [show (d₁.extend piece).max = max from hmax] at hmore hmax'
      rw [List.flatten_append, List.flatten_singleton]
      exact ⟨hcut.append hmore, hmax'⟩

/-- A decoder that is asked for frames comes to an end. -/
theorem exists_drains (d : Decoder) : ∃ fs outcome d', Drains d fs outcome d' := by
  rcases hnext : d.nextFrame with ⟨(fault | (_ | f)), d'⟩
  · exact ⟨_, _, _, .faulty hnext⟩
  · exact ⟨_, _, _, .starved hnext⟩
  · obtain ⟨hbytes, _, _⟩ := nextFrame_eq_some_iff.mp hnext
    -- the header alone makes what is left shorter
    have hless : d'.pending.length < d.pending.length := by
      rw [hbytes, List.length_append, f.length_bytes, Frame.totalLength, headerSize]
      omega
    obtain ⟨fs, outcome, d'', hdrains⟩ := exists_drains d'
    exact ⟨_, _, _, .frame hnext hdrains⟩
  termination_by d.pending.length

theorem exists_feeds (d : Decoder) (pieces : List (List UInt8)) :
    ∃ fs outcome d', Feeds d pieces fs outcome d' := by
  induction pieces using List.reverseRecOn with
  | nil => exact ⟨_, _, _, .start⟩
  | append_singleton pieces piece ih =>
      obtain ⟨fs, o, d₁, hfeeds⟩ := ih
      obtain ⟨gs, outcome, d₂, hdrains⟩ := exists_drains (d₁.extend piece)
      exact ⟨_, _, _, .piece hfeeds hdrains⟩

/-- What comes out of any pieces is the cut of the bytes that they are pieces of. -/
theorem Cut.feeds_iff {max : Nat} {bytes rest : List UInt8} {frames : List Frame}
    {outcome : Reading Unit} (h : Cut max bytes frames outcome rest)
    {pieces : List (List UInt8)} (hpieces : pieces.flatten = bytes)
    (fs : List Frame) (o : Reading Unit) (d : Decoder) :
    Feeds ⟨[], max⟩ pieces fs o d ↔ fs = frames ∧ o = outcome ∧ d = ⟨rest, max⟩ := by
  have hforced : ∀ {fs o d}, Feeds ⟨[], max⟩ pieces fs o d →
      fs = frames ∧ o = outcome ∧ d = ⟨rest, max⟩ := by
    intro fs o d hfeeds
    obtain ⟨hcut, hmax⟩ := hfeeds.cut
    rw [hpieces] at hcut
    obtain ⟨hframes, houtcome, hrest⟩ := hcut.unique h
    exact ⟨hframes, houtcome, by rw [← hrest, ← hmax]⟩
  constructor
  · exact hforced
  · rintro ⟨rfl, rfl, rfl⟩
    obtain ⟨fs', o', d', hfeeds⟩ := exists_feeds ⟨[], max⟩ pieces
    obtain ⟨rfl, rfl, rfl⟩ := hforced hfeeds
    exact hfeeds

theorem exists_cut (max : Nat) (bytes : List UInt8) :
    ∃ frames outcome rest, Cut max bytes frames outcome rest := by
  obtain ⟨fs, outcome, d, hfeeds⟩ := exists_feeds ⟨[], max⟩ [bytes]
  have hcut := hfeeds.cut.1
  rw [List.flatten_singleton] at hcut
  exact ⟨_, _, _, hcut⟩

/-! ## A fault stays -/

/-- The header that a fault is about is still a fault when bytes have come behind it. -/
theorem Ending.append {max : Nat} {rest : List UInt8} {fault : Fault}
    (h : Ending max rest (.error fault)) (bytes : List UInt8) :
    Ending max (rest ++ bytes) (.error fault) := by
  cases h with
  | tooSmall hsmall =>
      rw [List.append_assoc]
      exact .tooSmall hsmall
  | tooLarge htold hsmall hlarge =>
      rw [List.append_assoc]
      exact .tooLarge htold hsmall hlarge

theorem Decoder.Later.faulty {d d' : Decoder} {fault : Fault} (h : d.nextFrame.1 = .error fault)
    (hlater : d.Later d') : d'.nextFrame = (.error fault, d') := by
  have hnow : ∀ {d : Decoder}, d.nextFrame = (.error fault, d) ↔
      Ending d.max d.pending (.error fault) := nextFrame_eq_error_iff.trans (and_iff_left rfl)
  induction hlater with
  | now =>
      have hsame : d.nextFrame.2 = d := nextFrame_unchanged (by simp [h])
      exact Prod.ext h hsame
  | extend bytes _ ih => exact hnow.mpr ((hnow.mp ih).append bytes)
  | asked _ ih => rw [ih]; exact ih

/-! ## Frames that were written -/

/-- Written frames that the reader accepts are their own cut. -/
theorem cut_of_encode {max : Nat} {sent : List Frame} {encoded : List (List UInt8)}
    (h : List.Forall₂ (fun f bytes => f.encode = .ok bytes ∧ bytes.length ≤ max) sent encoded) :
    Cut max encoded.flatten sent (.ok ()) [] := by
  induction h with
  | nil => exact ⟨rfl, by simp, Ending.nil⟩
  | @cons f bytes sent encoded hf _ ih =>
      obtain ⟨hencode, hmax⟩ := hf
      obtain ⟨hle, rfl⟩ := Frame.encode_eq_ok_iff.mp hencode
      rw [f.length_bytes] at hmax
      refine ⟨?_, ?_, ih.ending⟩
      · rw [List.flatten_cons, ih.whole, List.map_cons, List.flatten_cons, List.append_assoc]
      · intro g hg
        rcases List.mem_cons.mp hg with rfl | hg
        · exact ⟨hmax, Nat.lt_of_le_of_lt hle (by decide)⟩
        · exact ih.fits g hg

/--
**How the bytes were cut does not matter.** Whatever the greatest frame and the bytes, there is one
cut of them, and every way of cutting them into pieces comes to an end with exactly its frames, its
outcome and its rest. A call without a frame leaves the decoder alone; a fault is reported again by
every later call, whatever has come since; and frames that were written, none of them too large for
the reader, come out as they are, with nothing left.
-/
theorem frames_do_not_depend_on_pieces (max : Nat) (bytes : List UInt8) :
    (∃ frames outcome rest, Cut max bytes frames outcome rest ∧
      ∀ pieces, pieces.flatten = bytes → ∀ fs o d,
        Feeds ⟨[], max⟩ pieces fs o d ↔ fs = frames ∧ o = outcome ∧ d = ⟨rest, max⟩) ∧
    (∀ d : Decoder, (∀ f, d.nextFrame.1 ≠ .ok (some f)) → d.nextFrame.2 = d) ∧
    (∀ (d : Decoder) (fault : Fault), d.nextFrame.1 = .error fault →
      ∀ d', d.Later d' → d'.nextFrame = (.error fault, d')) ∧
    (∀ sent encoded,
      List.Forall₂ (fun f out => Frame.encode f = .ok out ∧ out.length ≤ max) sent encoded →
      encoded.flatten = bytes → ∀ pieces, pieces.flatten = bytes → ∀ fs o d,
        Feeds ⟨[], max⟩ pieces fs o d ↔ fs = sent ∧ o = .ok () ∧ d = ⟨[], max⟩) := by
  refine ⟨?_, fun _ => nextFrame_unchanged, fun _ _ h _ => Decoder.Later.faulty h, ?_⟩
  · obtain ⟨frames, outcome, rest, hcut⟩ := exists_cut max bytes
    exact ⟨frames, outcome, rest, hcut, fun _ hpieces => hcut.feeds_iff hpieces⟩
  · intro sent encoded hsent hbytes pieces hpieces
    exact (cut_of_encode hsent).feeds_iff (hpieces.trans hbytes.symm)

/-- Two frames, the second without a payload, and a header that becomes a fault with its last byte;
the pieces end inside headers, and one is empty. The frames alone, in one piece, leave nothing. -/
theorem frames_do_not_depend_on_pieces_inside_headers :
    let frames : List Frame := [⟨[104, 105]⟩, ⟨[]⟩]
    Feeds ⟨[], 16⟩ [[0, 0], [], [0, 6, 104, 105, 0], [0, 0, 4, 0, 0, 0], [3]] frames
      (.error (.invalidFrameLength 3)) ⟨[0, 0, 0, 3], 16⟩ ∧
    Feeds ⟨[], 16⟩ [[0, 0, 0, 6, 104, 105, 0, 0, 0, 4]] frames (.ok ()) ⟨[], 16⟩ := by
  intro frames
  constructor
  · obtain ⟨⟨fs, outcome, rest, hcut, hfeeds⟩, -⟩ := frames_do_not_depend_on_pieces 16
      [0, 0, 0, 6, 104, 105, 0, 0, 0, 4, 0, 0, 0, 3]
    have hexplicit : Cut 16 [0, 0, 0, 6, 104, 105, 0, 0, 0, 4, 0, 0, 0, 3] frames
        (.error (.invalidFrameLength 3)) [0, 0, 0, 3] :=
      ⟨by decide, by simp [frames, Frame.Fits, Frame.totalLength, headerSize],
        show Ending 16 (header 3 ++ []) _ from .tooSmall (by decide)⟩
    obtain ⟨rfl, rfl, rfl⟩ := hexplicit.unique hcut
    exact (hfeeds _ rfl _ _ _).mpr ⟨rfl, rfl, rfl⟩
  · obtain ⟨-, -, -, hsent⟩ := frames_do_not_depend_on_pieces 16 [0, 0, 0, 6, 104, 105, 0, 0, 0, 4]
    have hencode : List.Forall₂ (fun f out => Frame.encode f = .ok out ∧ out.length ≤ 16) frames
        [[0, 0, 0, 6, 104, 105], [0, 0, 0, 4]] :=
      .cons ⟨by decide, by decide⟩ (.cons ⟨by decide, by decide⟩ .nil)
    exact (hsent frames _ hencode rfl _ rfl _ _ _).mpr ⟨rfl, rfl, rfl⟩

end Provisioning.Wire
