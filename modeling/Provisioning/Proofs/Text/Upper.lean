import Provisioning.Proofs.Text.Case

/-!
# Upper case stays upper case

The tables of upper case are built so that nothing they lead to stands in them again: no run leads
into a run or to a character with a longer upper case, and neither do the longer ones. So a text in
upper case is its own upper case (`upper_upper`), whatever characters it is made of. What is checked
is not each of some fifteen hundred characters but how the runs lie to each other.
-/

namespace Provisioning.Text

/-! ## Runs that lead past others -/

namespace CaseRun

/-- Where the run takes its first character. -/
def imageFirst (r : CaseRun) : Nat := (r.first + r.shift).toNat

/-- Where the run takes its last character. -/
def imageLast (r : CaseRun) : Nat := (r.last + r.shift).toNat

/-- What the run leads to lies before or behind the other run, or between its characters: both have
every second character, the one the even and the other the odd. -/
def misses (r other : CaseRun) : Bool :=
  Nat.blt r.imageLast other.first || Nat.blt other.last r.imageFirst ||
    (Nat.beq r.step 2 || Nat.beq r.first r.last) && Nat.beq other.step 2 &&
      Nat.blt 0 r.imageFirst && Nat.beq ((r.imageFirst + other.first) % 2) 1

variable {r other : CaseRun} {n m : Nat}

theorem upper?_eq_some : r.upper? n = some m ↔
    r.first ≤ n ∧ n ≤ r.last ∧ (n - r.first) % r.step = 0 ∧ (n + r.shift).toNat = m := by
  simp [upper?, and_assoc]

theorem upper?_eq_none_of_misses (h : r.misses other = true) (hm : r.upper? n = some m) :
    other.upper? m = none := by
  obtain ⟨hfirst, hlast, hstep, rfl⟩ := upper?_eq_some.mp hm
  rw [Option.eq_none_iff_forall_ne_some]
  intro l hl
  obtain ⟨hfirst', hlast', hstep', -⟩ := upper?_eq_some.mp hl
  simp only [misses, imageFirst, imageLast, Bool.or_eq_true, Bool.and_eq_true, Nat.blt_eq,
    Nat.beq_eq] at h
  rcases h with (hbefore | hbehind) | ⟨⟨⟨htwo | hone, htwo'⟩, hpos⟩, hodd⟩
  · omega
  · omega
  · rw [htwo] at hstep
    rw [htwo'] at hstep'
    omega
  · rw [htwo'] at hstep'
    omega

end CaseRun

/-! ## What the tables lead to -/

/-- The character is its own upper case. -/
def IsUpper (c : Char) : Prop := upperChar c = [c]

instance (c : Char) : Decidable (IsUpper c) := inferInstanceAs (Decidable (upperChar c = [c]))

/-- The characters whose upper case is longer, each as a run of its own. -/
def expandedRuns : List CaseRun := caseExpansions.map fun e => ⟨e.1, e.1, 2, 0⟩

/-- No run leads into the tables again. -/
theorem caseRuns_miss :
    (caseRuns.all fun r => (caseRuns ++ expandedRuns).all r.misses) = true := by
  decide +kernel

/-- A run that leads to an ASCII character has one character only, and leads to upper case. -/
theorem caseRuns_ascii : ∀ r ∈ caseRuns, r.imageFirst < 128 →
    r.first = r.last ∧ IsUpper (Char.ofNat r.imageFirst) := by
  decide +kernel

/-- What is longer in upper case has only characters in upper case there. -/
theorem caseExpansions_isUpper : ∀ e ∈ caseExpansions, ∀ n ∈ e.2, IsUpper (Char.ofNat n) := by
  decide +kernel

/-- What does not stand in the tables is its own upper case. -/
theorem isUpper_ofNat {m : Nat} (hascii : 128 ≤ m)
    (hruns : ∀ r ∈ caseRuns ++ expandedRuns, r.upper? m = none) : IsUpper (Char.ofNat m) := by
  by_cases hvalid : m.isValidChar
  · have hcode : (Char.ofNat m).toNat = m := by
      rw [Char.ofNat, dif_pos hvalid]
      rfl
    have hexpansions : caseExpansions.lookup m = none := by
      refine List.lookup_eq_none_iff.mpr fun e he => ?_
      have hrun := hruns ⟨e.1, e.1, 2, 0⟩ (List.mem_append_right _ (List.mem_map.mpr ⟨e, he, rfl⟩))
      simp only [bne_iff_ne]
      rintro rfl
      simp [CaseRun.upper?] at hrun
    have hfind : caseRuns.findSome? (·.upper? m) = none :=
      List.findSome?_eq_none_iff.mpr fun r hr => hruns r (List.mem_append_left _ hr)
    rw [IsUpper, upperChar, hcode, if_neg (by omega), hexpansions]
    simp only [hfind]
  · have hzero : Char.ofNat m = Char.ofNat 0 := by
      rw [Char.ofNat, dif_neg hvalid]
      rfl
    rw [hzero]
    decide

theorem isUpper_of_mem_caseRuns {r : CaseRun} (hr : r ∈ caseRuns) {n m : Nat}
    (hm : r.upper? n = some m) : IsUpper (Char.ofNat m) := by
  by_cases hascii : 128 ≤ m
  · refine isUpper_ofNat hascii fun other hother => ?_
    have hmiss := List.all_eq_true.mp (List.all_eq_true.mp caseRuns_miss r hr) other hother
    exact CaseRun.upper?_eq_none_of_misses hmiss hm
  · obtain ⟨hfirst, hlast, -, rfl⟩ := CaseRun.upper?_eq_some.mp hm
    have himage : r.imageFirst < 128 := by
      unfold CaseRun.imageFirst
      omega
    obtain ⟨hone, hupper⟩ := caseRuns_ascii r hr himage
    have hn : n = r.first := by omega
    rwa [hn]

/-- **Every character of an upper case is its own upper case.** -/
theorem isUpper_of_mem_upperChar {c d : Char} (h : d ∈ upperChar c) : IsUpper d := by
  unfold upperChar at h
  split at h
  · rename_i hascii
    obtain rfl := List.mem_singleton.mp h
    rw [IsUpper, upperChar, if_pos (toNat_toUpper hascii), toUpper_toUpper hascii]
  · rename_i hascii
    split at h
    · rename_i ns hns
      obtain ⟨n, hn, rfl⟩ := List.mem_map.mp h
      obtain ⟨before, after, htable, -⟩ := List.lookup_eq_some_iff.mp hns
      have hmem : (c.toNat, ns) ∈ caseExpansions := by simp [htable]
      exact caseExpansions_isUpper _ hmem n hn
    · rename_i hnone
      split at h
      · rename_i m hm
        obtain rfl := List.mem_singleton.mp h
        obtain ⟨r, hr, hrun⟩ := List.exists_of_findSome?_eq_some hm
        exact isUpper_of_mem_caseRuns hr hrun
      · rename_i hfind
        obtain rfl := List.mem_singleton.mp h
        rw [IsUpper, upperChar, if_neg hascii, hnone]
        simp only [hfind]

/-! ## Texts -/

/-- **A text in upper case is its own upper case.** -/
theorem upper_upper (s : String) : upper (upper s) = upper s := by
  refine String.toList_inj.mp ?_
  have hself : ∀ d ∈ (upper s).toList, upperChar d = [d] := by
    intro d hd
    rw [upper, String.toList_ofList] at hd
    obtain ⟨c, -, hc⟩ := List.mem_flatMap.mp hd
    exact isUpper_of_mem_upperChar hc
  rw [upper, String.toList_ofList, List.flatMap_congr hself, List.flatMap_singleton']

end Provisioning.Text
