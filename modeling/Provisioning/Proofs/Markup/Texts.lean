import Provisioning.Proofs.Markup.RoundTrip
import Provisioning.Proofs.Text.Numeral

/-!
# Texts on the way

A text arrives without the blanks at its ends. Where a document may leave a text out, a reader takes
an empty one for none. A text that is tidy, and filled where it may be left out, arrives as it is.
-/

namespace Provisioning.Markup

open Text

/-- No blank stands at either end of the text. -/
def IsTidy (s : String) : Prop :=
  (∀ c ∈ s.toList.head?, isMarkupBlank c = false) ∧
    ∀ c ∈ s.toList.getLast?, isMarkupBlank c = false

instance (s : String) : Decidable (IsTidy s) :=
  decidable_of_iff ((s.toList.head?.all fun c => isMarkupBlank c == false) = true ∧
    (s.toList.getLast?.all fun c => isMarkupBlank c == false) = true)
    (by simp [IsTidy, Option.all_eq_true])

/-- All texts are tidy. -/
def AreTidy (ss : List String) : Prop := ∀ s ∈ ss, IsTidy s

instance (ss : List String) : Decidable (AreTidy ss) :=
  inferInstanceAs (Decidable (∀ s ∈ ss, IsTidy s))

/-- A value that is there is not empty. -/
def IsFilled (o : Option String) : Prop := ∀ s ∈ o, s ≠ ""

/-- A text that is there is tidy and not empty. -/
def IsTidyFilled (o : Option String) : Prop := ∀ s ∈ o, IsTidy s ∧ s ≠ ""

instance (o : Option String) : Decidable (IsFilled o) :=
  inferInstanceAs (Decidable (∀ s ∈ o, s ≠ ""))

instance (o : Option String) : Decidable (IsTidyFilled o) :=
  inferInstanceAs (Decidable (∀ s ∈ o, IsTidy s ∧ s ≠ ""))

/-- The value, unless it is empty. -/
def filled (o : Option String) : Option String := o.filter (· != "")

/-- What arrives of a text that may be left out. -/
def filledText (o : Option String) : Option String := filled (o.map trimText)

@[simp] theorem trimText_empty : trimText "" = "" := by decide

@[simp] theorem trimText_of_isTidy {s : String} (h : IsTidy s) : trimText s = s := by
  rw [trimText, trim_of_ends h.1 h.2, String.ofList_toList]

/-- What arrives is tidy. -/
theorem isTidy_trimText (s : String) : IsTidy (trimText s) := by
  obtain ⟨_, _, _, _, _, hhead, hlast⟩ := isTrimOf_trim isMarkupBlank s.toList
  rw [IsTidy, trimText, String.toList_ofList]
  exact ⟨hhead, hlast⟩

@[simp] theorem map_trimText {ss : List String} (h : AreTidy ss) : ss.map trimText = ss := by
  have hmap : ss.map trimText = ss.map id :=
    List.map_congr_left fun s hs => trimText_of_isTidy (h s hs)
  rw [hmap, List.map_id]

@[simp] theorem filled_of_isFilled {o : Option String} (h : IsFilled o) : filled o = o := by
  cases o with
  | none => rfl
  | some s => simp [filled, Option.filter, h s rfl]

theorem IsTidyFilled.isFilled {o : Option String} (h : IsTidyFilled o) : IsFilled o :=
  fun s hs => (h s hs).2

theorem IsTidyFilled.areTidy {o : Option String} (h : IsTidyFilled o) : AreTidy o.toList :=
  fun s hs => (h s (Option.mem_toList.mp hs)).1

@[simp] theorem optionMap_trimText {o : Option String} (h : AreTidy o.toList) :
    o.map trimText = o := by
  cases o with
  | none => rfl
  | some s => rw [Option.map_some, trimText_of_isTidy (h s (by simp))]

@[simp] theorem filledText_of_isTidyFilled {o : Option String} (h : IsTidyFilled o) :
    filledText o = o := by
  rw [filledText, optionMap_trimText h.areTidy, filled_of_isFilled h.isFilled]

/-! ## Parts that arrive as they are -/

theorem optionMap_self {α : Type} {f : α → α} {o : Option α} (h : ∀ a ∈ o, f a = a) :
    o.map f = o := by
  cases o with
  | none => rfl
  | some a => rw [Option.map_some, h a rfl]

theorem listMap_self {α : Type} {f : α → α} {as : List α} (h : ∀ a ∈ as, f a = a) :
    as.map f = as := by
  rw [List.map_congr_left (g := id) h, List.map_id]

/-- Rows of texts that may be left out. -/
theorem optionMap_map_trimText {o : Option (List String)} (h : ∀ ss ∈ o, AreTidy ss) :
    o.map (·.map trimText) = o := optionMap_self fun ss hss => map_trimText (h ss hss)

/-! ## Numbers -/

/-- No digit is a blank, so a number arrives as it is. -/
@[simp] theorem trimText_repr (n : Nat) : trimText n.repr = n.repr := by
  have hdigit : ∀ c ∈ n.repr.toList, isMarkupBlank c = false := by
    intro c hc
    have hspace := not_isWhiteSpace_of_isDigit (isDigit_toString hc)
    cases hblank : isMarkupBlank c with
    | false => rfl
    | true =>
        rw [isWhiteSpace_of_isMarkupBlank hblank] at hspace
        exact absurd hspace (by simp)
  exact trimText_of_isTidy ⟨fun c hc => hdigit c (List.mem_of_mem_head? hc),
    fun c hc => hdigit c (List.mem_of_mem_getLast? hc)⟩

theorem readNumber_toString {b : Bounds} {n : Nat} (hb : b.least ≤ n ∧ n ≤ b.greatest)
    (field : String) : readNumber b field (toString n) = .ok n := by
  rw [readNumber, paddedBounded?_toString hb]

@[simp] theorem readNumber_u8 (n : UInt8) (field : String) :
    readNumber .u8 field n.toNat.repr = .ok n.toNat := by
  have hn := n.toNat_lt
  exact readNumber_toString ⟨by simp [Bounds.u8], by simp only [Bounds.u8]; omega⟩ field

@[simp] theorem readNumber_u16 (n : UInt16) (field : String) :
    readNumber .u16 field n.toNat.repr = .ok n.toNat := by
  have hn := n.toNat_lt
  exact readNumber_toString ⟨by simp [Bounds.u16], by simp only [Bounds.u16]; omega⟩ field

@[simp] theorem readNumber_u32 (n : UInt32) (field : String) :
    readNumber .u32 field n.toNat.repr = .ok n.toNat := by
  have hn := n.toNat_lt
  exact readNumber_toString ⟨by simp [Bounds.u32], by simp only [Bounds.u32]; omega⟩ field

@[simp] theorem readNumber_u64 (n : UInt64) (field : String) :
    readNumber .u64 field n.toNat.repr = .ok n.toNat := by
  have hn := n.toNat_lt
  exact readNumber_toString ⟨by simp [Bounds.u64], by simp only [Bounds.u64]; omega⟩ field

end Provisioning.Markup
