import Mathlib.Data.Int.Init
import Mathlib.Tactic.IntervalCases
import Mathlib.Tactic.MkIffOfInductiveProp
import Provisioning.Calendar.Date

/-!
# The calendar goes from day to day

Dates are counted by formulas. `Date.IsDateOf` is the calendar without them: day 0 is 1 January 1970,
and from one day to the next a date is followed by the next day of its month, by the first day of the
next month or by the first day of the next year. The formulas compute just this
(`Date.isDateOf_iff`), so dates of later days are later dates (`Date.before_ofDays`).

The formulas count years that begin in March, so the proofs do too. `MarchDay` is a day in such a
year; every day has one (`MarchDay.ofCount`) and no two of them have one count (`MarchDay.count_inj`).
-/

namespace Provisioning.Calendar

/-! ## Years that begin in March -/

/-- The days from 1 March of the year 0 to 1 March of a year. -/
def marchStart (y : Int) : Int := 365 * y + y / 4 - y / 100 + y / 400

/-- The days from 1 March to the first day of a month. Months are counted from March. -/
def monthStart (m : Int) : Int := (153 * m + 2) / 5

theorem isLeapYear_iff (y : Int) :
    isLeapYear y = true ↔ y % 4 = 0 ∧ (y % 100 ≠ 0 ∨ y % 400 = 0) := by
  simp [isLeapYear]

/-- The leap day of a year is the last day of the March year before it. -/
theorem marchStart_succ (y : Int) :
    marchStart (y + 1) = marchStart y + if isLeapYear (y + 1) then 366 else 365 := by
  simp only [marchStart]
  split
  · rename_i hleap
    have hleap := (isLeapYear_iff _).mp hleap
    omega
  · rename_i hleap
    have hleap := mt (isLeapYear_iff _).mpr hleap
    omega

theorem marchStart_le {y z : Int} (h : y ≤ z) : marchStart y ≤ marchStart z := by
  simp only [marchStart]
  omega

theorem marchStart_add_le (y : Int) : marchStart y + 365 ≤ marchStart (y + 1) := by
  rw [marchStart_succ]
  split <;> omega

theorem marchStart_add_eras (y k : Int) :
    marchStart (y + k * 400) = marchStart y + k * 146097 := by
  simp only [marchStart]
  omega

/-- The year among four hundred in which one of their 146097 days lies. -/
def yearOfEra (e : Int) : Int := (e - e / 1460 + e / 36524 - e / 146096) / 365

theorem yearOfEra_bounds {e : Int} (h : 0 ≤ e ∧ e < 146097) :
    0 ≤ yearOfEra e ∧ yearOfEra e < 400 := by
  simp only [yearOfEra]
  omega

/-- A day of them lies in a century, in four years of the century and in a year of the four. Only
the last four years of a century may be without their leap day. -/
theorem exists_cycles {e : Int} (h : 0 ≤ e ∧ e < 146096) : ∃ c q s : Int,
    e = 36524 * c + 1461 * q + s ∧ (0 ≤ c ∧ c ≤ 3) ∧ (0 ≤ q ∧ q ≤ 24) ∧ (0 ≤ s ∧ s ≤ 1460) ∧
      (q = 24 → s < 1460) :=
  ⟨e / 36524, e % 36524 / 1461, e % 36524 % 1461, by omega, by omega, by omega, by omega, by omega⟩

theorem yearOfEra_cycles {c q s : Int} (hc : 0 ≤ c ∧ c ≤ 3) (hq : 0 ≤ q ∧ q ≤ 24)
    (hs : 0 ≤ s ∧ s ≤ 1460) (hend : q = 24 → s < 1460) :
    yearOfEra (36524 * c + 1461 * q + s) = 100 * c + 4 * q + min (s / 365) 3 := by
  have hera : (36524 * c + 1461 * q + s) / 146096 = 0 := by omega
  have hcentury : (36524 * c + 1461 * q + s) / 36524 = c := by omega
  rw [yearOfEra, hera, hcentury]
  -- the quotient by 1460 counts leap days, and may count one too early late in the four years
  by_cases hlt : 24 * c + q + s < 1460
  · have hquot : (36524 * c + 1461 * q + s) / 1460 = 25 * c + q := by omega
    rw [hquot]
    omega
  · have hquot : (36524 * c + 1461 * q + s) / 1460 = 25 * c + q + 1 := by omega
    rw [hquot]
    omega

/-- The day lies in the year that is computed for it. -/
theorem yearOfEra_spec {e : Int} (h : 0 ≤ e ∧ e < 146097) :
    marchStart (yearOfEra e) ≤ e ∧ e < marchStart (yearOfEra e + 1) := by
  -- the last day of all is the leap day that makes the fourth century the longest
  by_cases hlast : e = 146096
  · subst hlast
    decide
  · obtain ⟨c, q, s, rfl, hc, hq, hs, hend⟩ := exists_cycles ⟨h.1, by omega⟩
    rw [yearOfEra_cycles hc hq hs hend]
    obtain ⟨k, hk⟩ : ∃ k, min (s / 365) 3 = k := ⟨_, rfl⟩
    have hyear : 0 ≤ k ∧ k ≤ 3 ∧ 365 * k ≤ s ∧ (s < 365 * k + 365 ∨ k = 3) := by omega
    have hfour : (100 * c + 4 * q + k) / 4 = 25 * c + q := by omega
    have hcentury : (100 * c + 4 * q + k) / 100 = c := by omega
    rw [hk]
    refine ⟨?_, ?_⟩
    · rw [marchStart, hfour, hcentury]
      omega
    · rw [marchStart_succ, marchStart, hfour, hcentury]
      split
      · omega
      · rename_i hleap
        have hleap := mt (isLeapYear_iff _).mpr hleap
        omega

/-- A day in a year that begins in March: the months are counted from March, and the days of a month
from its first day, both from 0. -/
@[ext]
structure MarchDay where
  year : Int
  month : Int
  day : Int

namespace MarchDay

/-- The days from 1 March of the year 0. -/
def count (x : MarchDay) : Int := marchStart x.year + monthStart x.month + x.day

/-- The day exists. Any month ends where the next one begins, save that the last one ends with the
year. -/
@[mk_iff exists_def]
structure Exists (x : MarchDay) : Prop where
  month : 0 ≤ x.month ∧ x.month ≤ 11
  day : 0 ≤ x.day
  inMonth : monthStart x.month + x.day < monthStart (x.month + 1)
  inYear : x.count < marchStart (x.year + 1)

theorem Exists.yearStart_le {x : MarchDay} (h : x.Exists) : marchStart x.year ≤ x.count := by
  obtain ⟨hmonth, hday, -, -⟩ := h
  simp only [count, monthStart]
  omega

/-- Days are told by their counts. -/
theorem count_inj {x y : MarchDay} (hx : x.Exists) (hy : y.Exists) (h : x.count = y.count) :
    x = y := by
  have hxstart := hx.yearStart_le
  have hystart := hy.yearStart_le
  obtain ⟨hxmonths, hxday, hxmonth, hxyear⟩ := hx
  obtain ⟨hymonths, hyday, hymonth, hyyear⟩ := hy
  have hyear : x.year = y.year := by
    rcases Int.lt_trichotomy x.year y.year with hlt | heq | hgt
    · have hle := marchStart_le (Int.add_one_le_of_lt hlt)
      omega
    · exact heq
    · have hle := marchStart_le (Int.add_one_le_of_lt hgt)
      omega
  rw [count, count, hyear] at h
  simp only [monthStart] at h hxmonth hymonth
  have hmonth : x.month = y.month := by omega
  rw [hmonth] at h
  have hday : x.day = y.day := by omega
  exact MarchDay.ext hyear hmonth hday

/-- The day with a count. -/
def ofCount (z : Int) : MarchDay :=
  let year := yearOfEra (z % 146097)
  let dayOfYear := z % 146097 - marchStart year
  let month := (5 * dayOfYear + 2) / 153
  ⟨year + z / 146097 * 400, month, dayOfYear - monthStart month⟩

theorem count_ofCount (z : Int) : (ofCount z).count = z := by
  simp only [ofCount, count, marchStart_add_eras]
  omega

theorem exists_ofCount (z : Int) : (ofCount z).Exists := by
  obtain ⟨hstart, hend⟩ := yearOfEra_spec (e := z % 146097) (by omega)
  have hlength : marchStart (yearOfEra (z % 146097) + 1) ≤
      marchStart (yearOfEra (z % 146097)) + 366 := by
    rw [marchStart_succ]
    split <;> omega
  have hnext : (ofCount z).year + 1 = yearOfEra (z % 146097) + 1 + z / 146097 * 400 := by
    simp only [ofCount]
    omega
  have hyear : (ofCount z).count < marchStart ((ofCount z).year + 1) := by
    rw [hnext, marchStart_add_eras, count_ofCount]
    omega
  refine ⟨?_, ?_, ?_, hyear⟩
  · simp only [ofCount]
    omega
  · simp only [ofCount, monthStart]
    omega
  · simp only [ofCount, monthStart]
    omega

end MarchDay

/-! ## Dates and their counts -/

namespace Date

/-- The month has this day. -/
@[mk_iff exists_def]
structure Exists (d : Date) : Prop where
  month : 1 ≤ d.month ∧ d.month ≤ 12
  day : 1 ≤ d.day ∧ d.day ≤ daysInMonth d.year d.month

/-- The same day in a year that begins in March. -/
def march (d : Date) : MarchDay :=
  ⟨if d.month ≤ 2 then d.year - 1 else d.year, (d.month + 9) % 12, d.day - 1⟩

theorem toDays_eq (d : Date) : d.toDays = d.march.count - 719468 := by
  simp only [toDays, march, MarchDay.count, marchStart, monthStart]
  omega

theorem march_inj {d e : Date} (hd : d.Exists) (he : e.Exists) (h : d.march = e.march) : d = e := by
  obtain ⟨hdmonth, hdday⟩ := hd
  obtain ⟨hemonth, heday⟩ := he
  obtain ⟨dyear, dmonth, dday⟩ := d
  obtain ⟨eyear, emonth, eday⟩ := e
  simp only [march, MarchDay.mk.injEq] at *
  obtain ⟨hyear, hmonth, hday⟩ := h
  have hmonth : dmonth = emonth := by omega
  subst hmonth
  have hyear : dyear = eyear := by omega
  have hday : dday = eday := by omega
  rw [hyear, hday]

/-- The lengths of the months but February follow the one rule. -/
theorem daysInMonth_eq (y : Int) {m : Nat} (hm : 1 ≤ m ∧ m ≤ 12) (hfeb : m ≠ 2) :
    (daysInMonth y m : Int) = monthStart ((m + 9) % 12 + 1) - monthStart ((m + 9) % 12) := by
  obtain ⟨h1, h12⟩ := hm
  interval_cases m
  case «2» => exact absurd rfl hfeb
  all_goals rfl

/-- February has what is left of the year that begins in March. -/
theorem daysInMonth_february (y : Int) :
    (daysInMonth y 2 : Int) = marchStart y - marchStart (y - 1) - monthStart 11 := by
  have hyear := marchStart_succ (y - 1)
  rw [Int.sub_add_cancel] at hyear
  rw [hyear, daysInMonth, monthStart]
  split <;> omega

/-- A date exists if it does in the year that begins in March. -/
theorem exists_iff_march {d : Date} (hmonth : 1 ≤ d.month ∧ d.month ≤ 12) (hday : 1 ≤ d.day) :
    d.Exists ↔ d.march.Exists := by
  obtain ⟨y, m, day⟩ := d
  simp only at hmonth hday
  rw [exists_def, MarchDay.exists_def]
  -- February ends with its March year, the other months where the next one begins
  by_cases hfeb : m = 2
  · subst hfeb
    have hlength := daysInMonth_february y
    have hyear := marchStart_add_le (y - 1)
    have hmarch : march ⟨y, 2, day⟩ = ⟨y - 1, 11, day - 1⟩ := rfl
    have hmonths : monthStart 11 = 337 ∧ monthStart (11 + 1) = 367 := ⟨rfl, rfl⟩
    have hmost : daysInMonth y 2 ≤ 29 := by
      simp only [daysInMonth]
      split <;> omega
    simp only [hmarch, MarchDay.count, Int.sub_add_cancel]
    omega
  · have hlength := daysInMonth_eq y hmonth hfeb
    have hyear := marchStart_add_le (if m ≤ 2 then y - 1 else y)
    have hmonths : monthStart ((m + 9) % 12 + 1) ≤ 337 := by
      simp only [monthStart]
      omega
    simp only [march, MarchDay.count]
    omega

/-- The date of a count is that of the day with the count. -/
theorem ofDays_eq (n : Int) : ofDays n =
    let x := MarchDay.ofCount (n + 719468)
    ⟨if x.month ≤ 9 then x.year else x.year + 1, ((x.month + 2) % 12 + 1).toNat,
      (x.day + 1).toNat⟩ := by
  obtain ⟨e, he⟩ : ∃ e, (n + 719468) % 146097 = e := ⟨_, rfl⟩
  obtain ⟨h0, h400⟩ := yearOfEra_bounds (e := e) (by omega)
  have hstart : marchStart (yearOfEra e) =
      365 * yearOfEra e + yearOfEra e / 4 - yearOfEra e / 100 := by
    rw [marchStart]
    omega
  have hyear : (e - e / 1460 + e / 36524 - e / 146096) / 365 = yearOfEra e := rfl
  have hmonth := (MarchDay.exists_ofCount (n + 719468)).month
  simp only [MarchDay.ofCount, he, hstart, monthStart] at hmonth ⊢
  simp only [ofDays, he, hyear]
  -- both sides give the month by one quotient, of which only the range matters from here on
  generalize (5 * (e - (365 * yearOfEra e + yearOfEra e / 4 - yearOfEra e / 100)) + 2) / 153 = m
    at hmonth ⊢
  have hturn : ((m + 2) % 12 + 1).toNat ≤ 2 ↔ ¬ m ≤ 9 := by omega
  congr 1
  by_cases h9 : m ≤ 9
  · rw [if_neg (by simpa [hturn] using h9), if_pos h9]
  · rw [if_pos (hturn.mpr h9), if_neg h9]

theorem march_ofDays (n : Int) : (ofDays n).march = .ofCount (n + 719468) := by
  obtain ⟨⟨hm0, hm11⟩, hday, -, -⟩ := MarchDay.exists_ofCount (n + 719468)
  rw [ofDays_eq]
  generalize MarchDay.ofCount (n + 719468) = x at *
  ext
  · simp only [march]
    split <;> split <;> omega
  · simp only [march]
    omega
  · simp only [march]
    omega

theorem exists_ofDays (n : Int) : (ofDays n).Exists := by
  have hday := MarchDay.exists_ofCount (n + 719468)
  have hmonth := hday.month
  have hfirst := hday.day
  rw [← march_ofDays] at hday
  refine (exists_iff_march ?_ ?_).mpr hday
  · rw [ofDays_eq]
    simp only
    omega
  · rw [ofDays_eq]
    simp only
    omega

theorem toDays_ofDays (n : Int) : (ofDays n).toDays = n := by
  rw [toDays_eq, march_ofDays, MarchDay.count_ofCount]
  omega

/-- Dates are told by their counts. -/
theorem toDays_inj {d e : Date} (hd : d.Exists) (he : e.Exists) (h : d.toDays = e.toDays) :
    d = e := by
  have hdmarch := (exists_iff_march hd.month hd.day.1).mp hd
  have hemarch := (exists_iff_march he.month he.day.1).mp he
  rw [toDays_eq, toDays_eq] at h
  exact march_inj hd he (MarchDay.count_inj hdmarch hemarch (by omega))

/-! ## From day to day -/

/-- The date of the next day. -/
def next (d : Date) : Date :=
  if d.day < daysInMonth d.year d.month then ⟨d.year, d.month, d.day + 1⟩
  else if d.month < 12 then ⟨d.year, d.month + 1, 1⟩
  else ⟨d.year + 1, 1, 1⟩

/-- The first day of the month after a month. -/
theorem march_firstOfNext {d : Date} (hmonth : 1 ≤ d.month ∧ d.month ≤ 12) :
    (if d.month < 12 then ⟨d.year, d.month + 1, 1⟩ else ⟨d.year + 1, 1, 1⟩ : Date).march =
      if d.month = 2 then ⟨d.march.year + 1, 0, 0⟩ else ⟨d.march.year, d.march.month + 1, 0⟩ := by
  obtain ⟨y, m, day⟩ := d
  obtain ⟨h1, h12⟩ := hmonth
  simp only at h1 h12 ⊢
  interval_cases m
  all_goals simp [march]

theorem toDays_next {d : Date} (h : d.Exists) : d.next.toDays = d.toDays + 1 := by
  obtain ⟨hmonth, hday⟩ := h
  unfold next
  split
  · simp only [toDays_eq, march, MarchDay.count]
    omega
  · rename_i hlast
    rw [toDays_eq, toDays_eq, march_firstOfNext hmonth]
    -- the March year goes on but after February
    split
    · rename_i hfeb
      have hlength := daysInMonth_february d.year
      rw [hfeb] at hlast hday
      simp only [march, hfeb, MarchDay.count]
      have h0 : monthStart 0 = 0 := rfl
      have h11 : monthStart ((((2 : Nat) : Int) + 9) % 12) = monthStart 11 := rfl
      simp only [le_refl, if_true, Int.sub_add_cancel, h0, h11]
      omega
    · rename_i hfeb
      have hlength := daysInMonth_eq d.year hmonth hfeb
      simp only [march, MarchDay.count]
      omega

theorem daysInMonth_pos (y : Int) {m : Nat} (hm : 1 ≤ m ∧ m ≤ 12) : 1 ≤ daysInMonth y m := by
  obtain ⟨h1, h12⟩ := hm
  interval_cases m
  case «2» =>
    simp only [daysInMonth]
    split <;> omega
  all_goals simp [daysInMonth]

theorem exists_next {d : Date} (h : d.Exists) : d.next.Exists := by
  obtain ⟨hmonth, hday⟩ := h
  unfold next
  split
  · rename_i hlt
    exact ⟨hmonth, by simp, hlt⟩
  · split
    · rename_i hlt
      have hnext : 1 ≤ d.month + 1 ∧ d.month + 1 ≤ 12 := by omega
      have hpos := daysInMonth_pos d.year hnext
      exact ⟨hnext, by simp only; omega⟩
    · exact ⟨⟨Nat.le_refl 1, by simp⟩, Nat.le_refl 1, by simp [daysInMonth]⟩

/-- **A day's date is followed by the next date.** -/
theorem ofDays_succ (n : Int) : ofDays (n + 1) = (ofDays n).next := by
  have hexists := exists_ofDays n
  refine toDays_inj (exists_ofDays _) (exists_next hexists) ?_
  rw [toDays_next hexists, toDays_ofDays, toDays_ofDays]

/-- The date of the day so many days after 1 January 1970, as days go by. -/
inductive IsDateOf : Date → Int → Prop where
  | epoch : IsDateOf ⟨1970, 1, 1⟩ 0
  | after {d : Date} {n : Int} : IsDateOf d n → IsDateOf d.next (n + 1)
  | before {d : Date} {n : Int} : d.Exists → IsDateOf d.next (n + 1) → IsDateOf d n

theorem isDateOf_ofDays (n : Int) : IsDateOf (ofDays n) n := by
  induction n using Int.induction_on with
  | zero => exact .epoch
  | succ n ih =>
      rw [ofDays_succ]
      exact .after ih
  | pred n ih =>
      refine .before (exists_ofDays _) ?_
      rw [← ofDays_succ, Int.sub_add_cancel]
      exact ih

/-- **The formulas compute the dates of the calendar**, and no other date is one of a day. -/
theorem isDateOf_iff {d : Date} {n : Int} : IsDateOf d n ↔ d = ofDays n := by
  constructor
  · intro h
    induction h with
    | epoch => rfl
    | after _ ih => rw [ofDays_succ, ih]
    | before hexists _ ih =>
        have hnext := toDays_next hexists
        rw [ih, toDays_ofDays] at hnext
        refine toDays_inj hexists (exists_ofDays _) ?_
        rw [toDays_ofDays]
        omega
  · rintro rfl
    exact isDateOf_ofDays n

/-- The date is the earlier one of two. -/
def Before (d e : Date) : Prop :=
  d.year < e.year ∨ d.year = e.year ∧ (d.month < e.month ∨ d.month = e.month ∧ d.day < e.day)

theorem Before.trans {d e f : Date} (h : d.Before e) (h' : e.Before f) : d.Before f := by
  simp only [Before] at *
  omega

theorem before_next {d : Date} : d.Before d.next := by
  simp only [Before, next]
  split
  · simp
  · split <;> simp

/-- **Later days have later dates.** -/
theorem before_ofDays {m n : Int} (h : m < n) : (ofDays m).Before (ofDays n) := by
  induction n, h using Int.leInduction with
  | base =>
      rw [ofDays_succ]
      exact before_next
  | succ n _ ih =>
      rw [ofDays_succ]
      exact ih.trans before_next

end Date

end Provisioning.Calendar
