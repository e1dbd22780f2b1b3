import Mathlib.Data.Nat.Digits.Defs
import Mathlib.Data.String.Basic
import Provisioning.Calendar.Instant
import Provisioning.Text.Utf8

/-!
# How many bytes a text takes

A text is counted in the bytes of its encoding, a string by its own count and a row of characters by
`String.utf8Len`. The count goes along with appending, and no decoder makes more of its bytes than
there are. Numerals take a byte for each digit, and the text of an instant is short because its year
is bounded.
-/

namespace Provisioning.Text

open String (utf8Len utf8Len_nil utf8Len_cons utf8Len_append utf8Len_reverse utf8Len_toList
  utf8ByteSize_append utf8ByteSize_ofList)

theorem utf8Len_le_mul {k : Nat} {cs : List Char} (h : ∀ c ∈ cs, c.utf8Size ≤ k) :
    utf8Len cs ≤ k * cs.length := by
  induction cs with
  | nil => exact Nat.le_refl _
  | cons c cs ih =>
      have hc := h c List.mem_cons_self
      have hcs := ih fun d hd => h d (List.mem_cons_of_mem c hd)
      rw [utf8Len_cons, List.length_cons, Nat.mul_succ]
      omega

/-- A character takes a byte at least. -/
theorem length_le_utf8Len (cs : List Char) : cs.length ≤ utf8Len cs := by
  induction cs with
  | nil => exact Nat.le_refl _
  | cons c cs ih =>
      have hpos := c.utf8Size_pos
      rw [List.length_cons, utf8Len_cons]
      omega

theorem utf8Len_takeWhile_add_dropWhile (p : Char → Bool) (cs : List Char) :
    utf8Len (cs.takeWhile p) + utf8Len (cs.dropWhile p) = utf8Len cs := by
  rw [← utf8Len_append, List.takeWhile_append_dropWhile]

/-! ## Encoding and decoding -/

namespace Utf8

/-- What is encoded has that many bytes. -/
theorem length_encode (s : String) : (encode s).length = s.utf8ByteSize := by
  have hchars : ∀ cs : List Char, (cs.flatMap String.utf8EncodeChar).length = utf8Len cs := by
    intro cs
    induction cs with
    | nil => rfl
    | cons c cs ih =>
        rw [List.flatMap_cons, List.length_append, String.length_utf8EncodeChar, ih, utf8Len_cons]
        omega
  rw [encode, hchars, utf8Len_toList]

/-- The bytes of a character by its code point. -/
theorem utf8Size_eq (c : Char) :
    c.utf8Size =
      if c.toNat ≤ 0x7F then 1 else if c.toNat ≤ 0x7FF then 2 else if c.toNat ≤ 0xFFFF then 3 else 4 :=
  rfl

/-- What is no code point is read as the character zero. -/
theorem toNat_ofNat_le (n : Nat) : (Char.ofNat n).toNat ≤ n := by
  unfold Char.ofNat
  by_cases hvalid : n.isValidChar
  · rw [dif_pos hvalid]
    exact Nat.le_refl _
  · rw [dif_neg hvalid]
    exact Nat.zero_le _

theorem width?_eq_one {lead : UInt8} (h : width? lead = some 1) : lead.toNat < 0x80 := by
  unfold width? at h
  by_cases hlt : lead < 0x80
  · exact hlt
  · rw [if_neg hlt] at h
    grind

/-- A character takes no more bytes than it was read from: the lead byte of each width leaves too few
bits for a character of a greater one. -/
theorem step_size {lead : UInt8} {bytes rest : List UInt8} {c : Char}
    (h : step lead bytes = .char c rest) : c.utf8Size + rest.length ≤ bytes.length + 1 := by
  have hpayload : ∀ b, payload b < 64 := fun b => Nat.mod_lt _ (by decide)
  have hfour := c.utf8Size_le_four
  unfold step at h
  grind [width?_eq_one, utf8Size_eq, toNat_ofNat_le]

theorem utf8Len_of_decodeFrom {index : Nat} {acc cs : List Char} {bytes : List UInt8}
    (h : decodeFrom index acc bytes = .ok cs) : utf8Len cs ≤ utf8Len acc + bytes.length := by
  fun_induction decodeFrom index acc bytes with
  | case1 index acc =>
      obtain rfl := Except.ok.inj h
      rw [utf8Len_reverse]
      omega
  | case2 index acc lead bytes c rest hstep hlen ih =>
      have hrest := ih h
      have hc := step_size hstep
      rw [utf8Len_cons] at hrest
      rw [List.length_cons]
      omega
  | case3 => cases h
  | case4 => cases h

/-- **What is decoded takes no more bytes than it was decoded from.** -/
theorem utf8ByteSize_of_decode {bytes : List UInt8} {s : String} (h : decode bytes = .ok s) :
    s.utf8ByteSize ≤ bytes.length := by
  unfold decode at h
  cases hcs : decodeFrom 0 [] bytes with
  | error fault => rw [hcs] at h; cases h
  | ok cs =>
      rw [hcs] at h
      obtain rfl := Except.ok.inj h
      have hle := utf8Len_of_decodeFrom hcs
      rw [utf8Len_nil, Nat.zero_add] at hle
      rw [utf8ByteSize_ofList]
      exact hle

end Utf8

/-! ## Numerals -/

theorem utf8Len_toDigits {n k : Nat} (hk : 0 < k) (h : n < 10 ^ k) :
    utf8Len (Nat.toDigits 10 n) ≤ k := by
  have hdigit : ∀ c ∈ Nat.toDigits 10 n, c.utf8Size ≤ 1 := fun c hc => by
    have hc := Nat.isDigit_of_mem_toDigits (by decide) (by decide) hc
    have hc : c.toNat ≤ 57 := by
      simp only [Char.isDigit, Bool.and_eq_true, decide_eq_true_eq] at hc
      exact hc.2
    rw [Utf8.utf8Size_eq, if_pos (by omega)]
  have hlength := Nat.toDigits_length 10 n k hk h
  have hsize := utf8Len_le_mul hdigit
  omega

theorem utf8ByteSize_toString {n k : Nat} (hk : 0 < k) (h : n < 10 ^ k) :
    (toString n).utf8ByteSize ≤ k := by
  have htoList : (toString n).toList = Nat.toDigits 10 n := Nat.toList_repr
  rw [← utf8Len_toList, htoList]
  exact utf8Len_toDigits hk h

theorem utf8ByteSize_padded (width : Nat) {n k : Nat} (hk : 0 < k) (h : n < 10 ^ k) :
    (padded width n).utf8ByteSize ≤ width + k := by
  have hdigits := utf8Len_toDigits hk h
  have hone : ∀ c ∈ List.replicate (width - (Nat.toDigits 10 n).length) '0', c.utf8Size ≤ 1 := by
    intro c hc
    rw [List.eq_of_mem_replicate hc]
    decide
  have hzeros := utf8Len_le_mul hone
  rw [List.length_replicate] at hzeros
  rw [padded, utf8ByteSize_ofList, utf8Len_append]
  omega

end Provisioning.Text

/-! ## The text of an instant -/

namespace Provisioning.Calendar

open Text
open String (utf8ByteSize_append)

theorem utf8ByteSize_yearText {y : Int} (h : firstYear ≤ y ∧ y ≤ lastYear) :
    (yearText y).utf8ByteSize ≤ 11 := by
  obtain ⟨hfirst, hlast⟩ := h
  simp only [firstYear, lastYear] at hfirst hlast
  have hsign : "+".utf8ByteSize = 1 ∧ "-".utf8ByteSize = 1 := ⟨rfl, rfl⟩
  have hpast := utf8ByteSize_padded 4 (n := (-y).toNat) (k := 6) (by decide) (by omega)
  have hfuture := utf8ByteSize_padded 4 (n := y.toNat) (k := 6) (by decide) (by omega)
  unfold yearText
  split
  · omega
  · split
    · rw [utf8ByteSize_append]
      omega
    · rw [utf8ByteSize_append]
      omega

theorem daysInMonth_le (y : Int) (m : Nat) : daysInMonth y m ≤ 31 := by
  unfold daysInMonth
  split <;> first | omega | (split <;> omega)

/-- The text of an instant whose year is in range takes at most 64 bytes. -/
theorem Instant.utf8ByteSize_text {t : Instant} (h : t.isValid = true) :
    t.text.utf8ByteSize ≤ 64 := by
  simp only [isValid, Bool.and_eq_true, decide_eq_true_eq] at h
  obtain ⟨⟨hdate, hnanos⟩, -⟩ := h
  simp only [Date.isValid, Bool.and_eq_true, decide_eq_true_eq] at hdate
  obtain ⟨⟨⟨⟨⟨hfirst, hlast⟩, -⟩, hmonth⟩, -⟩, hday⟩ := hdate
  have hday := Nat.le_trans hday (daysInMonth_le _ _)
  have hofDay : 0 ≤ t.seconds % day ∧ t.seconds % day < 86400 := by
    unfold day
    omega
  have hyear := utf8ByteSize_yearText ⟨hfirst, hlast⟩
  have hmonth := utf8ByteSize_padded 2 (n := (Date.ofDays (t.seconds / day)).month) (k := 2)
    (by decide) (by omega)
  have hday := utf8ByteSize_padded 2 (n := (Date.ofDays (t.seconds / day)).day) (k := 2)
    (by decide) (by omega)
  have hhour := utf8ByteSize_padded 2 (n := t.clock.hour) (k := 2) (by decide)
    (by simp only [clock]; omega)
  have hminute := utf8ByteSize_padded 2 (n := t.clock.minute) (k := 2) (by decide)
    (by simp only [clock]; omega)
  have hsecond := utf8ByteSize_padded 2 (n := t.clock.second) (k := 2) (by decide)
    (by simp only [clock, second] at hnanos ⊢; omega)
  have hfraction := utf8ByteSize_padded 4 (n := t.fraction / 100000) (k := 4) (by decide)
    (by simp only [fraction, second]; omega)
  have hmarks : "-".utf8ByteSize = 1 ∧ "T".utf8ByteSize = 1 ∧ ":".utf8ByteSize = 1 ∧
      ".".utf8ByteSize = 1 ∧ "Z".utf8ByteSize = 1 := ⟨rfl, rfl, rfl, rfl, rfl⟩
  simp only [text, Clock.text, Date.text, utf8ByteSize_append, hmarks]
  simp only [clock] at *
  omega

end Provisioning.Calendar
