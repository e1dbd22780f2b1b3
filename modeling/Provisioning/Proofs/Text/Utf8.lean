import Provisioning.Text.Utf8

/-!
# What is encoded is decoded

A character is written in one to four bytes, by its size. The lead byte of each size is in a range
of its own, so the reader knows how many bytes to take, and the bounds on the second byte, which keep
overlong forms and surrogates out, hold for every character that there is.
-/

namespace Provisioning.Text.Utf8

/-! ## Bytes as numbers -/

variable {a b c d : Nat} {rest : List UInt8}

theorem toNat_ofNat (h : a < 256) : (UInt8.ofNat a).toNat = a := by
  rw [UInt8.toNat_ofNat']
  omega

theorem le_ofNat {k : UInt8} (h : a < 256) : k ≤ UInt8.ofNat a ↔ k.toNat ≤ a := by
  rw [UInt8.le_iff_toNat_le, toNat_ofNat h]

theorem ofNat_le {k : UInt8} (h : a < 256) : UInt8.ofNat a ≤ k ↔ a ≤ k.toNat := by
  rw [UInt8.le_iff_toNat_le, toNat_ofNat h]

theorem ofNat_lt {k : UInt8} (h : a < 256) : UInt8.ofNat a < k ↔ a < k.toNat := by
  rw [UInt8.lt_iff_toNat_lt, toNat_ofNat h]

theorem isContinuation_ofNat (h : 0x80 ≤ b ∧ b ≤ 0xBF) : isContinuation (UInt8.ofNat b) = true := by
  have hb : b < 256 := by omega
  simp [isContinuation, le_ofNat hb, ofNat_le hb, h]

theorem width?_ofNat (h : a < 256) :
    width? (UInt8.ofNat a) =
      if a < 0x80 then some 1
      else if 0xC2 ≤ a ∧ a ≤ 0xDF then some 2
      else if 0xE0 ≤ a ∧ a ≤ 0xEF then some 3
      else if 0xF0 ≤ a ∧ a ≤ 0xF4 then some 4
      else none := by
  simp [width?, le_ofNat h, ofNat_le h, ofNat_lt h]

theorem secondBounds_ofNat (h : a < 256) :
    secondBounds (UInt8.ofNat a) =
      if a = 0xE0 then (0xA0, 0xBF)
      else if a = 0xED then (0x80, 0x9F)
      else if a = 0xF0 then (0x90, 0xBF)
      else if a = 0xF4 then (0x80, 0x8F)
      else (0x80, 0xBF) := by
  have heq : ∀ k : UInt8, UInt8.ofNat a = k ↔ a = k.toNat := fun k => by
    rw [← UInt8.toNat_inj, toNat_ofNat h]
  simp [secondBounds, heq]

/-- The second byte of a character is within the bounds of its lead byte, unless the form is
overlong, a surrogate, or after the last character. -/
theorem within_secondBounds (ha : a < 256) (hb : 0x80 ≤ b ∧ b ≤ 0xBF)
    (hE0 : a = 0xE0 → 0xA0 ≤ b) (hED : a = 0xED → b ≤ 0x9F)
    (hF0 : a = 0xF0 → 0x90 ≤ b) (hF4 : a = 0xF4 → b ≤ 0x8F) :
    (decide ((secondBounds (UInt8.ofNat a)).1 ≤ UInt8.ofNat b) &&
      decide (UInt8.ofNat b ≤ (secondBounds (UInt8.ofNat a)).2)) = true := by
  have hb' : b < 256 := by omega
  rw [Bool.and_eq_true, decide_eq_true_iff, decide_eq_true_iff, le_ofNat hb', ofNat_le hb',
    secondBounds_ofNat ha]
  split
  · exact ⟨hE0 ‹_›, hb.2⟩
  · split
    · exact ⟨hb.1, hED ‹_›⟩
    · split
      · exact ⟨hF0 ‹_›, hb.2⟩
      · split
        · exact ⟨hb.1, hF4 ‹_›⟩
        · exact hb

/-! ## One character, by its size -/

theorem step_one (ha : a < 0x80) :
    step (UInt8.ofNat a) rest = .char (Char.ofNat a) rest := by
  have h : a < 256 := by omega
  simp [step, width?_ofNat h, ha, Nat.mod_eq_of_lt h]

theorem step_two (ha : 0xC2 ≤ a ∧ a ≤ 0xDF) (hb : 0x80 ≤ b ∧ b ≤ 0xBF) :
    step (UInt8.ofNat a) (UInt8.ofNat b :: rest) =
      .char (Char.ofNat (a % 32 * 64 + b % 64)) rest := by
  have hwidth : width? (UInt8.ofNat a) = some 2 := by
    rw [width?_ofNat (by omega), if_neg (by omega), if_pos ha]
  simp only [step, hwidth, isContinuation_ofNat hb, if_true, payload, toNat_ofNat (a := a) (by omega),
    toNat_ofNat (a := b) (by omega)]

theorem step_three (ha : 0xE0 ≤ a ∧ a ≤ 0xEF) (hb : 0x80 ≤ b ∧ b ≤ 0xBF)
    (hc : 0x80 ≤ c ∧ c ≤ 0xBF) (hlow : a = 0xE0 → 0xA0 ≤ b) (hhigh : a = 0xED → b ≤ 0x9F) :
    step (UInt8.ofNat a) (UInt8.ofNat b :: UInt8.ofNat c :: rest) =
      .char (Char.ofNat ((a % 16 * 64 + b % 64) * 64 + c % 64)) rest := by
  have hwidth : width? (UInt8.ofNat a) = some 3 := by
    rw [width?_ofNat (by omega), if_neg (by omega), if_neg (by omega), if_pos ha]
  have hbounds := within_secondBounds (a := a) (by omega) hb hlow hhigh (by omega) (by omega)
  simp only [step, hwidth, hbounds, isContinuation_ofNat hc, if_true, payload,
    toNat_ofNat (a := a) (by omega), toNat_ofNat (a := b) (by omega),
    toNat_ofNat (a := c) (by omega)]

theorem step_four (ha : 0xF0 ≤ a ∧ a ≤ 0xF4) (hb : 0x80 ≤ b ∧ b ≤ 0xBF)
    (hc : 0x80 ≤ c ∧ c ≤ 0xBF) (hd : 0x80 ≤ d ∧ d ≤ 0xBF) (hlow : a = 0xF0 → 0x90 ≤ b)
    (hhigh : a = 0xF4 → b ≤ 0x8F) :
    step (UInt8.ofNat a) (UInt8.ofNat b :: UInt8.ofNat c :: UInt8.ofNat d :: rest) =
      .char (Char.ofNat (((a % 8 * 64 + b % 64) * 64 + c % 64) * 64 + d % 64)) rest := by
  have hwidth : width? (UInt8.ofNat a) = some 4 := by
    rw [width?_ofNat (by omega), if_neg (by omega), if_neg (by omega), if_neg (by omega), if_pos ha]
  have hbounds := within_secondBounds (a := a) (by omega) hb (by omega) (by omega) hlow hhigh
  simp only [step, hwidth, hbounds, isContinuation_ofNat hc, isContinuation_ofNat hd, if_true,
    payload, toNat_ofNat (a := a) (by omega), toNat_ofNat (a := b) (by omega),
    toNat_ofNat (a := c) (by omega), toNat_ofNat (a := d) (by omega)]

/-! ## Every character -/

/-- **The bytes of a character are read as the character**, whatever follows. -/
theorem step_encode (x : Char) (rest : List UInt8) :
    ∃ lead more, String.utf8EncodeChar x = lead :: more ∧ step lead (more ++ rest) = .char x rest := by
  have hvalid : x.val.toNat < 0xD800 ∨ (0xDFFF < x.val.toNat ∧ x.val.toNat < 0x110000) := x.valid
  have hx : Char.ofNat x.val.toNat = x := Char.ofNat_toNat x
  generalize hv : x.val.toNat = v at hvalid hx
  unfold String.utf8EncodeChar
  simp only [hv]
  split
  · exact ⟨_, _, rfl, by rw [List.nil_append, step_one (by omega), hx]⟩
  · split
    · refine ⟨_, _, rfl, ?_⟩
      rw [List.cons_append, List.nil_append, step_two (by omega) (by omega), ← hx]
      congr 2
      omega
    · split
      · refine ⟨_, _, rfl, ?_⟩
        rw [List.cons_append, List.cons_append, List.nil_append,
          step_three (by omega) (by omega) (by omega) (by omega) (by omega), ← hx]
        congr 2
        omega
      · refine ⟨_, _, rfl, ?_⟩
        rw [List.cons_append, List.cons_append, List.cons_append, List.nil_append,
          step_four (by omega) (by omega) (by omega) (by omega) (by omega) (by omega), ← hx]
        congr 2
        omega

theorem decodeFrom_encode (index : Nat) (acc cs : List Char) :
    decodeFrom index acc (cs.flatMap String.utf8EncodeChar) = .ok (acc.reverse ++ cs) := by
  induction cs generalizing index acc with
  | nil => simp [decodeFrom]
  | cons x cs ih =>
      obtain ⟨lead, more, hx, hstep⟩ := step_encode x (cs.flatMap String.utf8EncodeChar)
      rw [List.flatMap_cons, hx, List.cons_append, decodeFrom]
      split
      · rename_i y rest hy
        rw [hstep, Step.char.injEq] at hy
        obtain ⟨rfl, rfl⟩ := hy
        rw [ih]
        simp
      · rename_i hy; rw [hstep] at hy; exact absurd hy (by simp)
      · rename_i hy; rw [hstep] at hy; exact absurd hy (by simp)

/-- **What is encoded is decoded.** -/
theorem decode_encode (s : String) : decode (encode s) = .ok s := by
  rw [decode, encode, decodeFrom_encode]
  simp [Except.map]

/-- A character takes at most four bytes. -/
theorem length_encode_le (s : String) : (encode s).length ≤ 4 * s.length := by
  have hle : ∀ cs : List Char, (cs.flatMap String.utf8EncodeChar).length ≤ 4 * cs.length := by
    intro cs
    induction cs with
    | nil => simp
    | cons x cs ih =>
        rw [List.flatMap_cons, List.length_append, String.length_utf8EncodeChar, List.length_cons]
        have := x.utf8Size_le_four
        omega
  rw [← String.length_toList]
  exact hle s.toList

end Provisioning.Text.Utf8
