import Provisioning.Proofs.Markup.Texts
import Provisioning.Text.Upper

/-!
# Names in any case

A name is sent in upper case, and the key under which an object is held is the upper case of its
name. Of the ASCII characters only letters have another case, and each has exactly one, so two names
have one upper case exactly if they have one lower case. Beyond ASCII this is not certain: one
character may become several, and several may become the same.
-/

namespace Provisioning.Text

open Markup

/-- All characters are ASCII. -/
def IsAscii (s : String) : Prop := ∀ c ∈ s.toList, c.toNat < 128

/-- The characters of the text are looked at, not those that there are. -/
instance (s : String) : Decidable (IsAscii s) :=
  List.decidableBAll (fun c : Char => c.toNat < 128) s.toList

/-! ## Characters -/

/-- What holds of the first 128 characters holds of every ASCII character. -/
theorem forall_ascii {P : Char → Prop} (h : ∀ n < 128, P (Char.ofNat n)) {c : Char}
    (hc : c.toNat < 128) : P c := by
  have hchar := h c.toNat hc
  rwa [Char.ofNat_toNat] at hchar

theorem toNat_toUpper {c : Char} (h : c.toNat < 128) : c.toUpper.toNat < 128 :=
  forall_ascii (P := fun c => c.toUpper.toNat < 128) (by decide) h

theorem toUpper_toUpper {c : Char} (h : c.toNat < 128) : c.toUpper.toUpper = c.toUpper :=
  forall_ascii (P := fun c => c.toUpper.toUpper = c.toUpper) (by decide) h

theorem toLower_toUpper {c : Char} (h : c.toNat < 128) : c.toUpper.toLower = c.toLower :=
  forall_ascii (P := fun c => c.toUpper.toLower = c.toLower) (by decide) h

theorem toUpper_toLower {c : Char} (h : c.toNat < 128) : c.toLower.toUpper = c.toUpper :=
  forall_ascii (P := fun c => c.toLower.toUpper = c.toUpper) (by decide) h

theorem isMarkupBlank_toUpper {c : Char} (h : c.toNat < 128) :
    isMarkupBlank c.toUpper = isMarkupBlank c :=
  forall_ascii (P := fun c => isMarkupBlank c.toUpper = isMarkupBlank c) (by decide) h

/-! ## Names -/

variable {s a b : String}

/-- An ASCII name is put in upper case character by character. -/
theorem toList_upper (h : IsAscii s) : (upper s).toList = s.toList.map Char.toUpper := by
  rw [upper, String.toList_ofList, List.map_eq_flatMap]
  refine List.flatMap_congr fun c hc => ?_
  rw [upperChar, if_pos (h c hc)]

theorem toList_lowerAscii (s : String) : (lowerAscii s).toList = s.toList.map Char.toLower := by
  rw [lowerAscii, String.toList_ofList]

theorem lowerAscii_upper (h : IsAscii s) : lowerAscii (upper s) = lowerAscii s := by
  refine String.toList_inj.mp ?_
  rw [toList_lowerAscii, toList_lowerAscii, toList_upper h, List.map_map]
  exact List.map_congr_left fun c hc => toLower_toUpper (h c hc)

/-- The upper case can be told from the lower case. -/
theorem toList_upper_lowerAscii (h : IsAscii s) :
    (upper s).toList = (lowerAscii s).toList.map Char.toUpper := by
  rw [toList_upper h, toList_lowerAscii, List.map_map]
  exact (List.map_congr_left fun c hc => toUpper_toLower (h c hc)).symm

/-- **Two ASCII names have one upper case exactly if they are the same in any case.** -/
theorem upper_eq_upper_iff (ha : IsAscii a) (hb : IsAscii b) :
    upper a = upper b ↔ lowerAscii a = lowerAscii b := by
  constructor
  · intro h
    rw [← lowerAscii_upper ha, ← lowerAscii_upper hb, h]
  · intro h
    refine String.toList_inj.mp ?_
    rw [toList_upper_lowerAscii ha, toList_upper_lowerAscii hb, h]

/-- No blank comes to the ends of a name in upper case. -/
theorem isTidy_upper (h : IsAscii s) (htidy : IsTidy s) : IsTidy (upper s) := by
  obtain ⟨hhead, hlast⟩ := htidy
  rw [IsTidy, toList_upper h, List.head?_map, List.getLast?_map]
  constructor
  · intro c hc
    obtain ⟨d, hd, rfl⟩ := Option.map_eq_some_iff.mp hc
    rw [isMarkupBlank_toUpper (h d (List.mem_of_mem_head? hd))]
    exact hhead d hd
  · intro c hc
    obtain ⟨d, hd, rfl⟩ := Option.map_eq_some_iff.mp hc
    rw [isMarkupBlank_toUpper (h d (List.mem_of_mem_getLast? hd))]
    exact hlast d hd

end Provisioning.Text
