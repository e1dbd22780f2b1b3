import Provisioning.Proofs.Markup.Escape
import Provisioning.Text.Numeral

/-!
# A number that is written is read

The decimal digits of a number, and nothing else, are what is read as the number, within any bounds
that hold it.
-/

namespace Provisioning.Text

theorem toList_toString (n : Nat) : (toString n).toList = Nat.toDigits 10 n := Nat.toList_repr

theorem isDigit_toString {n : Nat} {c : Char} (h : c ∈ (toString n).toList) : c.isDigit = true := by
  rw [toList_toString] at h
  exact Nat.isDigit_of_mem_toDigits (by decide) (by decide) h

/-- No digit is white space. -/
theorem not_isWhiteSpace_of_isDigit {c : Char} (h : c.isDigit = true) : isWhiteSpace c = false := by
  have hc : 48 ≤ c.toNat ∧ c.toNat ≤ 57 := by
    simpa [Char.isDigit, UInt32.le_iff_toNat_le] using h
  simp only [isWhiteSpace, Bool.or_eq_false_iff, Bool.and_eq_false_iff, decide_eq_false_iff_not,
    beq_eq_false_iff_ne]
  omega

theorem natural?_toString (n : Nat) : natural? (toString n).toList = some n := by
  have hall : (toString n).toList.all Char.isDigit = true :=
    List.all_eq_true.mpr fun c hc => isDigit_toString hc
  have hvalue : digitsValue (toString n).toList = n := by
    rw [toList_toString]
    exact Nat.ofDigitChars_ten_toDigits
  rw [natural?, hall, hvalue]
  simp

/-- Numbers are told by their numerals. -/
theorem toString_inj {a b : Nat} (h : (toString a).toList = (toString b).toList) : a = b := by
  have hread := natural?_toString a
  rw [h, natural?_toString] at hread
  exact (Option.some.inj hread).symm

/-- No digit is a hyphen. -/
theorem hyphen_notMem_toString (n : Nat) : '-' ∉ (toString n).toList := by
  intro h
  exact absurd (isDigit_toString h) (by decide)

/-- Two numbers are told by their numerals with a hyphen between them. -/
theorem hyphenated_inj {a b c d : Nat}
    (h : toString a ++ "-" ++ toString b = toString c ++ "-" ++ toString d) : a = c ∧ b = d := by
  have hlists : (toString a).toList ++ '-' :: (toString b).toList =
      (toString c).toList ++ '-' :: (toString d).toList := by
    simpa using congrArg String.toList h
  -- the hyphen is the only one, so it stands at the same place in both
  obtain ⟨hfirst, -, hsecond⟩ := (List.append_cons_inj_of_notMem (hyphen_notMem_toString a)
    (hyphen_notMem_toString b)).mp hlists
  exact ⟨toString_inj hfirst, toString_inj hsecond⟩

/-- A row that begins with a digit has no sign. -/
theorem integer?_of_digits {cs : List Char} (signed : Bool) (h : ∀ c ∈ cs, c.isDigit = true) :
    integer? signed cs = (natural? cs).map Int.ofNat := by
  unfold integer?
  split
  · exact absurd (h '+' (by simp)) (by decide)
  · exact absurd (h '-' (by simp)) (by decide)
  · rfl

/-- **A number that is written is read**, within bounds that hold it. -/
theorem paddedBounded?_toString {b : Bounds} {n : Nat} (hb : b.least ≤ n ∧ n ≤ b.greatest) :
    paddedBounded? b (toString n) = some (n : Int) := by
  have htrim : trim isWhiteSpace (toString n).toList = (toString n).toList :=
    trim_of_ends
      (fun c hc => not_isWhiteSpace_of_isDigit (isDigit_toString (List.mem_of_mem_head? hc)))
      (fun c hc => not_isWhiteSpace_of_isDigit (isDigit_toString (List.mem_of_mem_getLast? hc)))
  rw [paddedBounded?, htrim, bounded?, integer?_of_digits _ fun c hc => isDigit_toString hc,
    natural?_toString]
  simp [Option.filter, hb]

end Provisioning.Text
