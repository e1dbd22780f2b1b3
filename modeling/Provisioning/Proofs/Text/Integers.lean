import Mathlib.Data.List.Induction
import Mathlib.Data.Nat.Digits.Defs
import Provisioning.Proofs.Text.Numeral

/-!
# What is read as an integer

Five types of integers are read from text, and each has its range. `IsNumeral` is the grammar, said
without the reader: an optional sign and a row of digits, the first of which may be zeros, with the
value that their places give. The reader computes that value exactly and compares it with the range
afterwards, so a row of any length either is read as its value or lies outside the range; there is no
third outcome in which it wraps (`paddedBounded?_eq_some_iff`).
-/

namespace Provisioning.Text

/-- The types of integers that are read from text. -/
inductive IntegerType where
  | u8
  | u16
  | u32
  | u64
  | i32
  deriving DecidableEq

namespace IntegerType

/-- The bounds with which the reader is called for a type. -/
def bounds : IntegerType → Bounds
  | u8 => .u8
  | u16 => .u16
  | u32 => .u32
  | u64 => .u64
  | i32 => .i32

/-- The type has this value. -/
def Holds : IntegerType → Int → Prop
  | u8, n => 0 ≤ n ∧ n < 2 ^ 8
  | u16, n => 0 ≤ n ∧ n < 2 ^ 16
  | u32, n => 0 ≤ n ∧ n < 2 ^ 32
  | u64, n => 0 ≤ n ∧ n < 2 ^ 64
  | i32, n => -2 ^ 31 ≤ n ∧ n < 2 ^ 31

theorem holds_iff (t : IntegerType) (n : Int) :
    t.Holds n ↔ t.bounds.least ≤ n ∧ n ≤ t.bounds.greatest := by
  cases t <;>
    simp only [Holds, bounds, Bounds.u8, Bounds.u16, Bounds.u32, Bounds.u64, Bounds.i32] <;> omega

theorem isSigned_bounds (t : IntegerType) : t.bounds.isSigned = true ↔ t = i32 := by
  cases t <;> decide

end IntegerType

/-! ## The grammar -/

/-- One or more ASCII digits. -/
def IsDigits (ds : List Char) : Prop := ds ≠ [] ∧ ∀ d ∈ ds, '0' ≤ d ∧ d ≤ '9'

/-- The number that a row of digits denotes by their places, the last one counting ones. -/
def placeValue (ds : List Char) : Nat :=
  Nat.ofDigits 10 (ds.reverse.map fun d => d.toNat - '0'.toNat)

/-- The row is a numeral of the number; with a minus sign only where `signed` is the case. -/
inductive IsNumeral (signed : Prop) : List Char → Int → Prop where
  | bare {ds : List Char} : IsDigits ds → IsNumeral signed ds (placeValue ds)
  | plus {ds : List Char} : IsDigits ds → IsNumeral signed ('+' :: ds) (placeValue ds)
  | minus {ds : List Char} : signed → IsDigits ds → IsNumeral signed ('-' :: ds) (-placeValue ds)

theorem digitsValue_append_singleton (ds : List Char) (d : Char) :
    digitsValue (ds ++ [d]) = 10 * digitsValue ds + digitValue d := by
  simp [digitsValue]

/-- What is computed from the front is what the places give. -/
theorem digitsValue_eq_placeValue (ds : List Char) : digitsValue ds = placeValue ds := by
  induction ds using List.reverseRecOn with
  | nil => rfl
  | append_singleton ds d ih =>
      rw [digitsValue_append_singleton, ih, placeValue, placeValue, List.reverse_append,
        List.reverse_singleton, List.singleton_append, List.map_cons, Nat.ofDigits_cons, digitValue]
      omega

theorem isDigit_iff (c : Char) : c.isDigit = true ↔ '0' ≤ c ∧ c ≤ '9' := by
  simp [Char.isDigit, Char.le_def]

theorem natural?_eq_some_iff {ds : List Char} {n : Nat} :
    natural? ds = some n ↔ IsDigits ds ∧ n = placeValue ds := by
  have hdigits : (!ds.isEmpty && ds.all Char.isDigit) = true ↔ IsDigits ds := by
    simp only [Bool.and_eq_true, Bool.not_eq_true', List.isEmpty_eq_false_iff, List.all_eq_true,
      isDigit_iff, IsDigits]
  unfold natural?
  split
  · rename_i h
    simp only [hdigits.mp h, true_and, Option.some.injEq, digitsValue_eq_placeValue, eq_comm]
  · rename_i h
    simp only [mt hdigits.mpr h, false_and, reduceCtorEq]

/-- **The reader of integers follows the grammar.** -/
theorem integer?_eq_some_iff {signed : Bool} {cs : List Char} {n : Int} :
    integer? signed cs = some n ↔ IsNumeral (signed = true) cs n := by
  constructor
  · intro h
    unfold integer? at h
    split at h
    · obtain ⟨m, hm, rfl⟩ := Option.map_eq_some_iff.mp h
      obtain ⟨hds, rfl⟩ := natural?_eq_some_iff.mp hm
      exact .plus hds
    · split at h
      · rename_i hsigned
        obtain ⟨m, hm, rfl⟩ := Option.map_eq_some_iff.mp h
        obtain ⟨hds, rfl⟩ := natural?_eq_some_iff.mp hm
        exact .minus hsigned hds
      · exact absurd h (by simp)
    · obtain ⟨m, hm, rfl⟩ := Option.map_eq_some_iff.mp h
      obtain ⟨hds, rfl⟩ := natural?_eq_some_iff.mp hm
      exact .bare hds
  · intro h
    cases h with
    | bare hds =>
        rw [integer?_of_digits signed fun c hc => (isDigit_iff c).mpr (hds.2 c hc),
          natural?_eq_some_iff.mpr ⟨hds, rfl⟩]
        rfl
    | plus hds =>
        rw [integer?, natural?_eq_some_iff.mpr ⟨hds, rfl⟩]
        rfl
    | minus hsigned hds =>
        rw [integer?, if_pos hsigned, natural?_eq_some_iff.mpr ⟨hds, rfl⟩]
        rfl

/-! ## White space around a numeral -/

/-- There is one way only to take the blanks from the ends of a text. -/
theorem IsTrimOf.eq_trim {blank : Char → Bool} {t s : List Char} (h : IsTrimOf blank t s) :
    t = trim blank s := by
  obtain ⟨front, back, rfl, hfront, hback, hhead, hlast⟩ := h
  rw [trim_append_blanks hback, trim, trimLeft_blanks_append hfront, ← trim, trim_of_ends hhead hlast]

theorem isTrimOf_iff {blank : Char → Bool} {t s : List Char} :
    IsTrimOf blank t s ↔ t = trim blank s := by
  refine ⟨IsTrimOf.eq_trim, ?_⟩
  rintro rfl
  exact isTrimOf_trim blank s

/-- The text is a numeral of the number, with any white space around it, and the type has the
number. -/
def IntegerType.Denotes (t : IntegerType) (s : String) (n : Int) : Prop :=
  (∃ cs, IsTrimOf isWhiteSpace cs s.toList ∧ IsNumeral (t = .i32) cs n) ∧ t.Holds n

/-- **What is read as an integer** is what the text denotes. -/
theorem paddedBounded?_eq_some_iff {t : IntegerType} {s : String} {n : Int} :
    paddedBounded? t.bounds s = some n ↔ t.Denotes s n := by
  simp only [paddedBounded?, bounded?, Option.filter_eq_some_iff, integer?_eq_some_iff,
    Bool.and_eq_true, decide_eq_true_eq, IntegerType.Denotes, isTrimOf_iff, exists_eq_left,
    t.holds_iff, t.isSigned_bounds]

/-! ## Integers that are written -/

theorem isDigits_repr (n : Nat) : IsDigits n.repr.toList := by
  obtain ⟨hds, -⟩ := natural?_eq_some_iff.mp (natural?_toString n)
  exact hds

theorem placeValue_repr (n : Nat) : placeValue n.repr.toList = n := by
  obtain ⟨-, hn⟩ := natural?_eq_some_iff.mp (natural?_toString n)
  exact hn.symm

/-- The written form of an integer is its numeral. -/
theorem isNumeral_toString {signed : Prop} {n : Int} (h : n < 0 → signed) :
    IsNumeral signed (toString n).toList n := by
  cases n with
  | ofNat n =>
      have hbare : IsNumeral signed n.repr.toList (placeValue n.repr.toList) := .bare (isDigits_repr n)
      rw [placeValue_repr] at hbare
      exact hbare
  | negSucc n =>
      have hminus := IsNumeral.minus (h (Int.negSucc_lt_zero n)) (isDigits_repr (n + 1))
      rw [placeValue_repr] at hminus
      have htext : (toString (Int.negSucc n)).toList = '-' :: (n + 1).repr.toList := by
        simp [toString, Int.repr]
      rw [htext]
      exact hminus

/-- White space stands at no end of a numeral. -/
theorem IsNumeral.isTrimOf {signed : Prop} {cs : List Char} {n : Int} (h : IsNumeral signed cs n) :
    IsTrimOf isWhiteSpace cs cs := by
  have hdigit : ∀ {ds : List Char}, IsDigits ds → ∀ c ∈ ds, isWhiteSpace c = false :=
    fun hds c hc => not_isWhiteSpace_of_isDigit ((isDigit_iff c).mpr (hds.2 c hc))
  have hends : ∀ c ∈ cs, isWhiteSpace c = false := by
    cases h with
    | bare hds => exact hdigit hds
    | plus hds => exact List.forall_mem_cons.mpr ⟨rfl, hdigit hds⟩
    | minus _ hds => exact List.forall_mem_cons.mpr ⟨rfl, hdigit hds⟩
  exact ⟨[], [], by simp, by simp, by simp, fun c hc => hends c (List.mem_of_mem_head? hc),
    fun c hc => hends c (List.mem_of_mem_getLast? hc)⟩

/-- **An integer that is written denotes itself** in every type that has it. -/
theorem IntegerType.Holds.denotes {t : IntegerType} {n : Int} (h : t.Holds n) :
    t.Denotes (toString n) n := by
  have hleast := ((t.holds_iff n).mp h).1
  have hsigned : n < 0 → t = .i32 := fun hn =>
    t.isSigned_bounds.mp (decide_eq_true (Int.lt_of_le_of_lt hleast hn))
  have hnumeral := isNumeral_toString hsigned
  exact ⟨⟨_, hnumeral.isTrimOf, hnumeral⟩, h⟩

end Provisioning.Text
