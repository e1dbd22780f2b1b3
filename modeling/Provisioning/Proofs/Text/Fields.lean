import Mathlib.Data.Char
import Mathlib.Data.List.Lex
import Provisioning.Proofs.Text.Integers
import Provisioning.Text.Utf8

/-!
# Texts of numbers with fixed widths

A text may be a row of fields, each of them a number with a fixed width, zeros in front, and a mark
behind it. `HasFields` says so without a printer. Two such texts of one form sort like their numbers,
the first field that differs deciding (`HasFields.lt_iff`), because rows of digits of one length sort
like the numbers that they denote (`digits_lt_iff`). Numbers that are not padded do not: 9 comes
after 10 as a text.
-/

namespace Provisioning.Text

theorem eq_iff_not_lt_and_not_lt {α : Type} [LinearOrder α] {a b : α} :
    a = b ↔ ¬ a < b ∧ ¬ b < a := by
  rw [not_lt, not_lt, and_comm, le_antisymm_iff]

/-! ## Rows of digits -/

theorem placeValue_cons (d : Char) (ds : List Char) :
    placeValue (d :: ds) = digitValue d * 10 ^ ds.length + placeValue ds := by
  rw [placeValue, List.reverse_cons, List.map_append, Nat.ofDigits_append, List.length_map,
    List.length_reverse, List.map_singleton, Nat.ofDigits_singleton, placeValue, digitValue]
  ring

theorem digitValue_lt {d : Char} (h : '0' ≤ d ∧ d ≤ '9') : digitValue d < 10 := by
  have hzero : '0'.toNat = 48 := rfl
  have hnine : d.toNat ≤ 57 := Char.le_def.mp h.2
  rw [digitValue]
  omega

/-- A row of digits denotes less than its width allows. -/
theorem placeValue_lt {ds : List Char} (h : ∀ d ∈ ds, '0' ≤ d ∧ d ≤ '9') :
    placeValue ds < 10 ^ ds.length := by
  induction ds with
  | nil => simp [placeValue]
  | cons d ds ih =>
      have hd := digitValue_lt (h d List.mem_cons_self)
      have hrest := ih fun c hc => h c (List.mem_cons_of_mem d hc)
      have hmost := Nat.mul_le_mul_right (10 ^ ds.length) (Nat.le_of_lt_succ hd)
      rw [placeValue_cons, List.length_cons, Nat.pow_succ]
      omega

theorem digit_lt_iff {c d : Char} (hc : '0' ≤ c) (hd : '0' ≤ d) :
    c < d ↔ digitValue c < digitValue d := by
  have hzero : '0'.toNat = 48 := rfl
  have hc : 48 ≤ c.toNat := Char.le_def.mp hc
  have hd : 48 ≤ d.toNat := Char.le_def.mp hd
  have hlt : c < d ↔ c.toNat < d.toNat := Iff.rfl
  rw [hlt, digitValue, digitValue]
  omega

theorem digit_eq_iff {c d : Char} (hc : '0' ≤ c) (hd : '0' ≤ d) :
    c = d ↔ digitValue c = digitValue d := by
  rw [eq_iff_not_lt_and_not_lt, digit_lt_iff hc hd, digit_lt_iff hd hc]
  omega

/-- The place of greater weight decides. -/
theorem mul_add_lt_mul_add_iff {x y u v k : Nat} (hu : u < k) (hv : v < k) :
    x * k + u < y * k + v ↔ x < y ∨ x = y ∧ u < v := by
  rcases Nat.lt_trichotomy x y with hlt | rfl | hgt
  · have hle := Nat.mul_le_mul_right k hlt
    rw [Nat.succ_mul] at hle
    omega
  · omega
  · have hle := Nat.mul_le_mul_right k hgt
    rw [Nat.succ_mul] at hle
    omega

/-- **Rows of digits of one length sort like their numbers.** -/
theorem digits_lt_iff {ds es : List Char} (hlength : ds.length = es.length)
    (hds : ∀ d ∈ ds, '0' ≤ d ∧ d ≤ '9') (hes : ∀ e ∈ es, '0' ≤ e ∧ e ≤ '9') :
    ds < es ↔ placeValue ds < placeValue es := by
  induction ds generalizing es with
  | nil =>
      obtain rfl := List.length_eq_zero_iff.mp hlength.symm
      simp
  | cons d ds ih =>
      cases es with
      | nil => simp at hlength
      | cons e es =>
          obtain ⟨hd, hds⟩ := List.forall_mem_cons.mp hds
          obtain ⟨he, hes⟩ := List.forall_mem_cons.mp hes
          have hrest : ds.length = es.length := Nat.succ.inj hlength
          have hsmall := placeValue_lt hes
          rw [← hrest] at hsmall
          rw [List.cons_lt_cons_iff, placeValue_cons, placeValue_cons, ← hrest,
            mul_add_lt_mul_add_iff (placeValue_lt hds) hsmall, digit_lt_iff hd.1 he.1,
            digit_eq_iff hd.1 he.1, ih hrest hds hes]

/-- Rows of digits of one length are told by their numbers. -/
theorem digits_eq_iff {ds es : List Char} (hlength : ds.length = es.length)
    (hds : ∀ d ∈ ds, '0' ≤ d ∧ d ≤ '9') (hes : ∀ e ∈ es, '0' ≤ e ∧ e ≤ '9') :
    ds = es ↔ placeValue ds = placeValue es := by
  rw [eq_iff_not_lt_and_not_lt, digits_lt_iff hlength hds hes, digits_lt_iff hlength.symm hes hds]
  omega

/-! ## Padded numbers -/

theorem toList_padded (width n : Nat) : (padded width n).toList =
    List.replicate (width - (Nat.toDigits 10 n).length) '0' ++ Nat.toDigits 10 n := by
  rw [padded, String.toList_ofList]

theorem length_padded {width n : Nat} (hwidth : 0 < width) (hn : n < 10 ^ width) :
    (padded width n).toList.length = width := by
  have hfits := Nat.toDigits_length 10 n width hwidth hn
  rw [toList_padded, List.length_append, List.length_replicate]
  omega

theorem isDigits_padded (width n : Nat) : IsDigits (padded width n).toList := by
  obtain ⟨hne, hdigits⟩ := isDigits_repr n
  rw [Nat.toList_repr] at hne hdigits
  rw [toList_padded]
  refine ⟨List.append_ne_nil_of_right_ne_nil _ hne, ?_⟩
  intro d hd
  rcases List.mem_append.mp hd with hd | hd
  · rw [List.eq_of_mem_replicate hd]
    decide
  · exact hdigits d hd

/-- Zeros in front do not count. -/
theorem placeValue_zeros_append (k : Nat) (ds : List Char) :
    placeValue (List.replicate k '0' ++ ds) = placeValue ds := by
  rw [placeValue, List.reverse_append, List.reverse_replicate, List.map_append, List.map_replicate]
  exact Nat.ofDigits_append_replicate_zero _

theorem placeValue_padded (width n : Nat) : placeValue (padded width n).toList = n := by
  rw [toList_padded, placeValue_zeros_append, ← Nat.toList_repr]
  exact placeValue_repr n

/-! ## Fields -/

/-- The first parts of two rows decide if they differ and have one length. -/
theorem append_lt_append_iff {α : Type} [LinearOrder α] {as bs xs ys : List α}
    (hlength : as.length = bs.length) :
    as ++ xs < bs ++ ys ↔ as < bs ∨ as = bs ∧ xs < ys := by
  induction as generalizing bs with
  | nil =>
      obtain rfl := List.length_eq_zero_iff.mp hlength.symm
      simp
  | cons a as ih =>
      cases bs with
      | nil => simp at hlength
      | cons b bs =>
          rw [List.cons_append, List.cons_append, List.cons_lt_cons_iff, List.cons_lt_cons_iff,
            ih (Nat.succ.inj hlength), List.cons.injEq]
          tauto

/-- The text has the form, which gives for each field its width and the mark behind it, and its
fields denote the numbers. -/
inductive HasFields : List (Nat × Char) → List Nat → List Char → Prop where
  | nil : HasFields [] [] []
  | field {width n : Nat} {mark : Char} {form : List (Nat × Char)} {ns : List Nat}
      {ds cs : List Char} :
      ds.length = width → IsDigits ds → placeValue ds = n → HasFields form ns cs →
      HasFields ((width, mark) :: form) (n :: ns) (ds ++ mark :: cs)

namespace HasFields

variable {form : List (Nat × Char)} {ns ms : List Nat} {cs ds : List Char}

/-- A padded number that fits its width is a field. -/
theorem padded {n : Nat} (h : HasFields form ns cs) (width : Nat) (mark : Char)
    (hwidth : 0 < width) (hn : n < 10 ^ width) :
    HasFields ((width, mark) :: form) (n :: ns) ((padded width n).toList ++ mark :: cs) :=
  .field (length_padded hwidth hn) (isDigits_padded width n) (placeValue_padded width n) h

/-- The form gives the length. -/
theorem length_eq (h : HasFields form ns cs) : cs.length = (form.map fun f => f.1 + 1).sum := by
  induction h with
  | nil => rfl
  | field hwidth _ _ _ ih =>
      rw [List.length_append, List.length_cons, ih, hwidth, List.map_cons, List.sum_cons]
      omega

/-- Every character is a digit or a mark. -/
theorem mem (h : HasFields form ns cs) {c : Char} (hc : c ∈ cs) :
    ('0' ≤ c ∧ c ≤ '9') ∨ c ∈ form.map Prod.snd := by
  induction h with
  | nil => exact absurd hc List.not_mem_nil
  | field _ hdigits _ _ ih =>
      rw [List.map_cons, List.mem_cons]
      rcases List.mem_append.mp hc with hc | hc
      · exact .inl (hdigits.2 c hc)
      · rcases List.mem_cons.mp hc with rfl | hc
        · exact .inr (.inl rfl)
        · rcases ih hc with hdigit | hmark
          · exact .inl hdigit
          · exact .inr (.inr hmark)

/-- A text with ASCII marks is an ASCII text. -/
theorem ascii (h : HasFields form ns cs) (hmarks : ∀ m ∈ form.map Prod.snd, m.toNat < 128) :
    ∀ c ∈ cs, c.toNat < 128 := by
  intro c hc
  rcases h.mem hc with ⟨-, hnine⟩ | hmark
  · have hnine : c.toNat ≤ 57 := Char.le_def.mp hnine
    omega
  · exact hmarks c hmark

/-- **Texts of one form sort like their numbers.** -/
theorem lt_iff (h : HasFields form ns cs) (h' : HasFields form ms ds) : cs < ds ↔ ns < ms := by
  induction h generalizing ms ds with
  | nil =>
      cases h'
      simp
  | field hwidth hdigits hvalue _ ih =>
      cases h' with
      | field hwidth' hdigits' hvalue' hrest' =>
          -- the form gives both first fields one width, so the first field that differs decides
          have hlength := hwidth.trans hwidth'.symm
          rw [append_lt_append_iff hlength, digits_lt_iff hlength hdigits.2 hdigits'.2,
            digits_eq_iff hlength hdigits.2 hdigits'.2, hvalue, hvalue', List.cons_lt_cons_iff,
            List.cons_lt_cons_iff, ih hrest']
          simp

/-- Texts of one form are told by their numbers. -/
theorem eq_iff (h : HasFields form ns cs) (h' : HasFields form ms ds) : cs = ds ↔ ns = ms := by
  rw [eq_iff_not_lt_and_not_lt, h.lt_iff h', h'.lt_iff h, ← eq_iff_not_lt_and_not_lt]

end HasFields

/-! ## Bytes of ASCII texts -/

/-- An ASCII character is one byte. -/
theorem utf8EncodeChar_of_ascii {c : Char} (h : c.toNat < 128) :
    String.utf8EncodeChar c = [UInt8.ofNat c.toNat] := by
  have hle : c.val.toNat ≤ 127 := Nat.le_of_lt_succ h
  unfold String.utf8EncodeChar
  simp only [hle, if_true]
  rfl

theorem toNat_byte_of_ascii {c : Char} (h : c.toNat < 128) :
    (UInt8.ofNat c.toNat).toNat = c.toNat := by
  rw [UInt8.toNat_ofNat']
  exact Nat.mod_eq_of_lt (by omega)

/-- **ASCII texts sort by their bytes as by their characters.** -/
theorem encode_lt_encode_iff {s t : String} (hs : ∀ c ∈ s.toList, c.toNat < 128)
    (ht : ∀ c ∈ t.toList, c.toNat < 128) :
    Utf8.encode s < Utf8.encode t ↔ s.toList < t.toList := by
  rw [Utf8.encode, Utf8.encode]
  generalize s.toList = cs at hs ⊢
  generalize t.toList = ds at ht ⊢
  induction cs generalizing ds with
  | nil =>
      cases ds with
      | nil => simp
      | cons d ds =>
          rw [List.flatMap_cons, utf8EncodeChar_of_ascii (ht d List.mem_cons_self)]
          simp
  | cons c cs ih =>
      cases ds with
      | nil => simp
      | cons d ds =>
          obtain ⟨hc, hcs⟩ := List.forall_mem_cons.mp hs
          obtain ⟨hd, hds⟩ := List.forall_mem_cons.mp ht
          have hlt : c < d ↔ c.toNat < d.toNat := Iff.rfl
          rw [List.flatMap_cons, List.flatMap_cons, utf8EncodeChar_of_ascii hc,
            utf8EncodeChar_of_ascii hd, List.singleton_append, List.singleton_append,
            List.cons_lt_cons_iff, List.cons_lt_cons_iff, UInt8.lt_iff_toNat_lt, ← UInt8.toNat_inj,
            toNat_byte_of_ascii hc, toNat_byte_of_ascii hd, Char.toNat_inj, hlt, ih hcs ds hds]

end Provisioning.Text
