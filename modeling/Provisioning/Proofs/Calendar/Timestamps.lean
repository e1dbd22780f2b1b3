import Provisioning.Calendar.Reading
import Provisioning.Proofs.Calendar.Days
import Provisioning.Proofs.Text.Fields
import Provisioning.Proofs.Text.Size

/-!
# Timestamps sort like the times that they denote

A timestamp is a row of numbers with fixed widths, the year first and the fraction of the second
last. `Instant.numbers` is that row, and the argument goes through it: later instants have greater
rows (`Instant.numbers_lt_iff`), because later days have later dates and a leap second is shown as
second 60 of its own minute; and of two texts with greater rows one is the greater, byte by byte. The
fraction is cut off and not rounded, so what two instants have in common up to the cut is exactly
what their texts show. Without its fraction a timestamp can be cut down to its date.
-/

namespace Provisioning.Calendar

open Text

/-! ## The order of instants -/

/-- The second decides, and within it the nanoseconds. A leap second belongs to the second before
it. -/
instance : LT Instant :=
  ⟨fun t u => t.seconds < u.seconds ∨ t.seconds = u.seconds ∧ t.nanos < u.nanos⟩

instance : LE Instant :=
  ⟨fun t u => t.seconds < u.seconds ∨ t.seconds = u.seconds ∧ t.nanos ≤ u.nanos⟩

namespace Instant

variable {t u : Instant}

theorem lt_def : t < u ↔ t.seconds < u.seconds ∨ t.seconds = u.seconds ∧ t.nanos < u.nanos :=
  Iff.rfl

theorem le_def : t ≤ u ↔ t.seconds < u.seconds ∨ t.seconds = u.seconds ∧ t.nanos ≤ u.nanos :=
  Iff.rfl

theorem trichotomy (t u : Instant) : t < u ∨ t = u ∨ u < t := by
  obtain ⟨seconds, nanos⟩ := t
  obtain ⟨seconds', nanos'⟩ := u
  simp only [lt_def, mk.injEq]
  omega

/-- The instant without what the fourth digit of its fraction leaves over. -/
def cut (t : Instant) : Instant := ⟨t.seconds, t.nanos / 100000 * 100000⟩

theorem not_cut_lt_cut (h : t ≤ u) : ¬ u.cut < t.cut := by
  simp only [le_def, lt_def, cut] at *
  omega

/-- The instant exists, and its year has four digits. -/
structure HasFourDigitYear (t : Instant) : Prop where
  valid : t.isValid = true
  year : 0 ≤ t.clock.date.year ∧ t.clock.date.year ≤ 9999

/-- Only the last second of a minute may be followed by a leap second. -/
theorem nanos_of_isValid (h : t.isValid = true) :
    t.nanos < 2 * second ∧ (t.nanos < second ∨ t.seconds % 60 = 59) := by
  simp only [isValid, Bool.and_eq_true, decide_eq_true_eq, Bool.or_eq_true, beq_iff_eq] at h
  exact ⟨h.1.2, h.2⟩

/-! ## What is shown sorts like the instants -/

/-- The numbers that a timestamp shows. -/
def numbers (t : Instant) : List Nat :=
  [t.clock.date.year.toNat, t.clock.date.month, t.clock.date.day, t.clock.hour, t.clock.minute,
    t.clock.second, t.fraction / 100000]

/-- The date decides between instants of different days. -/
theorem numbers_lt_of_day_lt (ht : 0 ≤ t.clock.date.year) (h : t.seconds / day < u.seconds / day) :
    t.numbers < u.numbers := by
  have hbefore := Date.before_ofDays h
  simp only [clock] at ht
  simp only [numbers, clock, List.cons_lt_cons_iff]
  simp only [Date.Before] at hbefore
  omega

/-- The time of day decides between instants of one day. -/
theorem numbers_lt_of_day_eq (ht : t.isValid = true) (h : t.cut < u.cut)
    (hday : t.seconds / day = u.seconds / day) : t.numbers < u.numbers := by
  have hnanos := nanos_of_isValid ht
  simp only [numbers, clock, hday, List.cons_lt_cons_iff, lt_irrefl, true_and, false_or]
  simp only [lt_def, cut, second, fraction, day] at *
  omega

theorem numbers_lt_of_cut_lt (ht : t.HasFourDigitYear) (h : t.cut < u.cut) :
    t.numbers < u.numbers := by
  by_cases hday : t.seconds / day < u.seconds / day
  · exact numbers_lt_of_day_lt ht.year.1 hday
  · -- days do not go back while instants go on
    refine numbers_lt_of_day_eq ht.valid h ?_
    simp only [lt_def, cut, day] at *
    omega

theorem numbers_eq_of_cut_eq (h : t.cut = u.cut) : t.numbers = u.numbers := by
  simp only [cut, mk.injEq] at h
  obtain ⟨hseconds, hnanos⟩ := h
  have hleap : t.nanos / second = u.nanos / second := by
    simp only [second]
    omega
  have hfraction : t.fraction / 100000 = u.fraction / 100000 := by
    simp only [fraction, second]
    omega
  simp only [numbers, clock, hseconds, hleap, hfraction]

/-- **The numbers of timestamps sort like the instants** up to the cut. -/
theorem numbers_lt_iff (ht : t.HasFourDigitYear) (hu : u.HasFourDigitYear) :
    t.numbers < u.numbers ↔ t.cut < u.cut := by
  constructor
  · -- any other order of the instants would be that of their numbers
    intro h
    rcases trichotomy t.cut u.cut with hlt | heq | hgt
    · exact hlt
    · rw [numbers_eq_of_cut_eq heq] at h
      exact absurd h (lt_irrefl _)
    · exact absurd (numbers_lt_of_cut_lt hu hgt) (lt_asymm h)
  · exact numbers_lt_of_cut_lt ht

/-- Timestamps with the same numbers are of instants that agree up to the cut. -/
theorem numbers_eq_iff (ht : t.HasFourDigitYear) (hu : u.HasFourDigitYear) :
    t.numbers = u.numbers ↔ t.cut = u.cut := by
  refine ⟨?_, numbers_eq_of_cut_eq⟩
  intro h
  rcases trichotomy t.cut u.cut with hlt | heq | hgt
  · exact absurd h (numbers_lt_of_cut_lt ht hlt).ne
  · exact heq
  · exact absurd h (numbers_lt_of_cut_lt hu hgt).ne'

/-! ## The form of the text -/

/-- The widths of the numbers of a timestamp, and the marks behind them. -/
def stampForm : List (Nat × Char) :=
  [(4, '-'), (2, '-'), (2, 'T'), (2, ':'), (2, ':'), (2, '.'), (4, 'Z')]

/-- The clock shows the instant: the date of its day, and a time of the day from which as many
seconds have passed, where second 60 is shown in leap seconds only. -/
structure IsShownBy (t : Instant) (c : Clock) : Prop where
  date : c.date.IsDateOf (t.seconds / day)
  hour : c.hour < 24
  minute : c.minute < 60
  second : c.second ≤ 60
  leap : c.second = 60 ↔ 1000000000 ≤ t.nanos
  time : (c.hour * 3600 + c.minute * 60 + c.second : Nat) =
    t.seconds % day + (t.nanos / 1000000000 : Nat)

theorem isShownBy_clock (ht : t.isValid = true) : t.IsShownBy t.clock := by
  have hnanos := nanos_of_isValid ht
  simp only [Instant.second] at hnanos
  refine ⟨Date.isDateOf_ofDays _, ?_, ?_, ?_, ?_, ?_⟩
  all_goals
    simp only [clock, Instant.second, day]
    omega

theorem fraction_lt (t : Instant) : t.fraction / 100000 < 10 ^ 4 := by
  simp only [fraction, second]
  omega

section Form

variable {form : List (Nat × Char)} {ns : List Nat} {cs : List Char}

/-- The text of a date as the first fields of a text. -/
theorem hasFields_date (ht : t.HasFourDigitYear) (h : HasFields form ns cs) (mark : Char) :
    HasFields ((4, '-') :: (2, '-') :: (2, mark) :: form)
      (t.clock.date.year.toNat :: t.clock.date.month :: t.clock.date.day :: ns)
      (t.clock.date.text.toList ++ mark :: cs) := by
  have hexists : t.clock.date.Exists := Date.exists_ofDays _
  obtain ⟨hmonth, hday⟩ := hexists
  have hmost := daysInMonth_le t.clock.date.year t.clock.date.month
  have hyear := ht.year
  have hfields := ((h.padded (n := t.clock.date.day) 2 mark (by decide) (by omega)).padded
    (n := t.clock.date.month) 2 '-' (by decide) (by omega)).padded
    (n := t.clock.date.year.toNat) 4 '-' (by decide) (by omega)
  simpa [Date.text, yearText, hyear] using hfields

/-- The text of a clock as the first fields of a text. -/
theorem hasFields_clock (ht : t.HasFourDigitYear) (h : HasFields form ns cs) (mark : Char) :
    HasFields ((4, '-') :: (2, '-') :: (2, 'T') :: (2, ':') :: (2, ':') :: (2, mark) :: form)
      (t.clock.date.year.toNat :: t.clock.date.month :: t.clock.date.day :: t.clock.hour ::
        t.clock.minute :: t.clock.second :: ns)
      (t.clock.text.toList ++ mark :: cs) := by
  obtain ⟨-, hhour, hminute, hsecond, -, -⟩ := isShownBy_clock ht.valid
  have htime := ((h.padded (n := t.clock.second) 2 mark (by decide) (by omega)).padded
    (n := t.clock.minute) 2 ':' (by decide) (by omega)).padded
    (n := t.clock.hour) 2 ':' (by decide) (by omega)
  simpa [Clock.text] using hasFields_date ht htime 'T'

/-- **A timestamp has the form of timestamps**, and shows the numbers of its instant. -/
theorem hasFields_text (ht : t.HasFourDigitYear) : HasFields stampForm t.numbers t.text.toList := by
  have hlast := HasFields.nil.padded 4 'Z' (by decide) (fraction_lt t)
  simpa [text, stampForm, numbers] using hasFields_clock ht hlast '.'

end Form

end Instant

/-! ## Reading the date -/

section Reading

variable {ds : List Char}

theorem readDigits_append (h : IsDigits ds) (cs : List Char) :
    readDigits ds.length (ds ++ cs) = some (placeValue ds, cs) := by
  obtain ⟨hne, hds⟩ := h
  have hrow : ds.takeWhile Char.isDigit = ds :=
    List.takeWhile_eq_self_iff.mpr fun d hd => (isDigit_iff d).mpr (hds d hd)
  simp only [readDigits, List.take_left, hrow, List.drop_left, List.isEmpty_eq_false_iff.mpr hne,
    digitsValue_eq_placeValue]
  rfl

/-- White space is dropped before numbers, and digits are none. -/
theorem trimLeft_digits (h : IsDigits ds) (cs : List Char) :
    trimLeft isWhiteSpace (ds ++ cs) = ds ++ cs := by
  obtain ⟨hne, hds⟩ := h
  obtain ⟨d, ds, rfl⟩ := List.exists_cons_of_ne_nil hne
  have hd := not_isWhiteSpace_of_isDigit ((isDigit_iff d).mpr (hds d List.mem_cons_self))
  rw [trimLeft, List.cons_append, List.dropWhile_cons, hd]
  rfl

theorem readField_append (hlength : ds.length = 2) (h : IsDigits ds) (cs : List Char) :
    readField 2 (ds ++ cs) = some (placeValue ds, cs) := by
  rw [readField, trimLeft_digits h, ← hlength, readDigits_append h]

theorem readYear_append (hlength : ds.length = 4) (h : IsDigits ds) (cs : List Char) :
    readYear (ds ++ cs) = some ((placeValue ds : Int), cs) := by
  -- the year has no sign, since its first character is a digit
  have hsign : ∀ c rest, ds ++ cs = c :: rest → '0' ≤ c := by
    intro c rest hcs
    obtain ⟨d, ds, rfl⟩ := List.exists_cons_of_ne_nil h.1
    obtain ⟨rfl, -⟩ := List.cons.inj hcs
    exact (h.2 d List.mem_cons_self).1
  rw [readYear, trimLeft_digits h]
  split
  · rename_i hcs
    exact absurd (hsign _ _ hcs) (by decide)
  · rename_i hcs
    exact absurd (hsign _ _ hcs) (by decide)
  · rw [← hlength, readDigits_append h]
    rfl

theorem readMark_self (c : Char) (cs : List Char) : readMark c (c :: cs) = some ((), cs) := by
  rw [readMark, if_pos rfl]

/-- The form of a timestamp without its fraction. -/
def dateTimeForm : List (Nat × Char) :=
  [(4, '-'), (2, '-'), (2, 'T'), (2, ':'), (2, ':'), (2, 'Z')]

/-- **A date-time is read as its date**, if the date and the time exist. -/
theorem dateOfDateTime?_of_hasFields {s : String} {year month day hour minute second : Nat}
    (hs : HasFields dateTimeForm [year, month, day, hour, minute, second] s.toList)
    (hdate : (⟨year, month, day⟩ : Date).isValid = true)
    (htime : (⟨hour, minute, second⟩ : TimeOfDay).isValid = true) :
    dateOfDateTime? s = some ⟨year, month, day⟩ := by
  unfold dateOfDateTime?
  generalize s.toList = cs at hs ⊢
  dsimp only [Option.bind_eq_bind]
  -- the text is taken apart as it is read, field by field
  obtain _ | ⟨hyear, hyear', rfl, hs⟩ := hs
  rw [readYear_append hyear hyear', Option.bind_some, readMark_self, Option.bind_some]
  obtain _ | ⟨hmonth, hmonth', rfl, hs⟩ := hs
  rw [readField_append hmonth hmonth', Option.bind_some, readMark_self, Option.bind_some]
  obtain _ | ⟨hday, hday', rfl, hs⟩ := hs
  rw [readField_append hday hday', Option.bind_some, readMark_self, Option.bind_some]
  obtain _ | ⟨hhour, hhour', rfl, hs⟩ := hs
  rw [readField_append hhour hhour', Option.bind_some, readMark_self, Option.bind_some]
  obtain _ | ⟨hminute, hminute', rfl, hs⟩ := hs
  rw [readField_append hminute hminute', Option.bind_some, readMark_self, Option.bind_some]
  obtain _ | ⟨hsecond, hsecond', rfl, hs⟩ := hs
  rw [readField_append hsecond hsecond', Option.bind_some, readMark_self, Option.bind_some]
  cases hs
  simp only [hdate, htime]
  rfl

end Reading

/-- A text without what stands in the place of a timestamp's fraction, the point and four digits. -/
def withoutFraction (s : String) : String := String.ofList (s.toList.take 19 ++ s.toList.drop 24)

namespace Instant

variable {t u : Instant}

theorem toList_text (t : Instant) : t.text.toList =
    t.clock.text.toList ++ ('.' :: (padded 4 (t.fraction / 100000)).toList) ++ ['Z'] := by
  simp [text]

theorem length_clock_text (ht : t.HasFourDigitYear) : t.clock.text.toList.length = 19 := by
  have hlength := (hasFields_clock ht .nil 'Z').length_eq
  simpa using hlength

theorem length_date_text (ht : t.HasFourDigitYear) : t.clock.date.text.toList.length = 10 := by
  have hlength := (hasFields_date ht .nil 'Z').length_eq
  simpa using hlength

theorem toList_withoutFraction (ht : t.HasFourDigitYear) :
    (withoutFraction t.text).toList = t.clock.text.toList ++ ['Z'] := by
  have hclock := length_clock_text ht
  have hfraction : ('.' :: (padded 4 (t.fraction / 100000)).toList).length = 5 := by
    rw [List.length_cons, length_padded (by decide) (fraction_lt t)]
  have hboth : (t.clock.text.toList ++ ('.' :: (padded 4 (t.fraction / 100000)).toList)).length =
      24 := by
    rw [List.length_append, hclock, hfraction]
  rw [withoutFraction, String.toList_ofList, toList_text, List.drop_left' hboth, List.append_assoc,
    List.take_left' hclock]

/-- The first ten characters of a timestamp are its date. -/
theorem take_text (ht : t.HasFourDigitYear) :
    String.ofList (t.text.toList.take 10) = t.clock.date.text := by
  have htext : ∃ rest, t.text.toList = t.clock.date.text.toList ++ rest := by
    simp only [text, Clock.text, String.toList_append, List.append_assoc]
    exact ⟨_, rfl⟩
  obtain ⟨rest, hrest⟩ := htext
  rw [hrest, ← length_date_text ht, List.take_left, String.ofList_toList]

/-- A timestamp without its fraction is cut down to its date. -/
theorem dateText_withoutFraction (ht : t.HasFourDigitYear) :
    dateText (withoutFraction t.text) = .ok t.clock.date.text := by
  obtain ⟨-, hhour, hminute, hsecond, -, -⟩ := isShownBy_clock ht.valid
  have hform := hasFields_clock ht .nil 'Z'
  rw [← toList_withoutFraction ht] at hform
  have hyear : (t.clock.date.year.toNat : Int) = t.clock.date.year := Int.toNat_of_nonneg ht.year.1
  have hdate : t.clock.date.isValid = true := by
    have hvalid := ht.valid
    simp only [isValid, Bool.and_eq_true] at hvalid
    exact hvalid.1.1
  have htime : (⟨t.clock.hour, t.clock.minute, t.clock.second⟩ : TimeOfDay).isValid = true := by
    simp only [TimeOfDay.isValid, Bool.and_eq_true, decide_eq_true_eq]
    omega
  have hread := dateOfDateTime?_of_hasFields hform (by rw [hyear]; exact hdate) htime
  rw [dateText, hread, hyear]

/--
**Timestamps sort like the times that they denote.** For two instants with years of four digits, leap
seconds among them: the text of an instant has 25 characters, all of them ASCII, which are the
numbers that a clock shows at it, each with its width and its mark behind it; the text of the later
one is not before that of the earlier one in the order of bytes; the texts are equal exactly if the
instants agree in all but what the fourth digit of the fraction leaves over; and a text without its
fraction is cut down to its own first ten characters, the date.
-/
theorem timestamps_sort_like_times (ht : t.HasFourDigitYear) (hu : u.HasFourDigitYear) :
    (t.text.length = 25 ∧ (∀ c ∈ t.text.toList, c.toNat < 128) ∧
      HasFields stampForm t.numbers t.text.toList ∧ t.IsShownBy t.clock) ∧
    (t ≤ u → Utf8.encode t.text ≤ Utf8.encode u.text) ∧
    (t.text = u.text ↔ t.cut = u.cut) ∧
    dateText (withoutFraction t.text) = .ok (String.ofList (t.text.toList.take 10)) := by
  have htform := hasFields_text ht
  have huform := hasFields_text hu
  have hmarks : ∀ c ∈ stampForm.map Prod.snd, c.toNat < 128 := by simp [stampForm]
  refine ⟨⟨?_, htform.ascii hmarks, htform, isShownBy_clock ht.valid⟩, ?_, ?_, ?_⟩
  · rw [← String.length_toList, htform.length_eq]
    rfl
  · intro h
    show ¬ Utf8.encode u.text < Utf8.encode t.text
    rw [encode_lt_encode_iff (huform.ascii hmarks) (htform.ascii hmarks), huform.lt_iff htform,
      numbers_lt_iff hu ht]
    exact not_cut_lt_cut h
  · rw [← numbers_eq_iff ht hu, ← htform.eq_iff huform, String.toList_inj]
  · rw [dateText_withoutFraction ht, take_text ht]

/-- A leap second at the end of a year, and the first instant of the next year. -/
theorem timestamps_sort_like_times_leap_second :
    let t : Instant := ⟨1483228799, 1500049999⟩
    let u : Instant := ⟨1483228800, 0⟩
    t.HasFourDigitYear ∧ u.HasFourDigitYear ∧ t ≤ u ∧
      t.text = "2016-12-31T23:59:60.5000Z" ∧ u.text = "2017-01-01T00:00:00.0000Z" ∧
      Utf8.encode t.text ≤ Utf8.encode u.text ∧ t.text ≠ u.text ∧
      dateText (withoutFraction t.text) = .ok "2016-12-31" := by
  intro t u
  have ht : t.HasFourDigitYear := ⟨by decide, by decide⟩
  have hu : u.HasFourDigitYear := ⟨by decide, by decide⟩
  have hle : t ≤ u := .inl (by decide)
  have htext : t.text = "2016-12-31T23:59:60.5000Z" := by decide
  obtain ⟨-, hsorted, hequal, hdate⟩ := timestamps_sort_like_times ht hu
  refine ⟨ht, hu, hle, htext, by decide, hsorted hle, mt hequal.mp (by decide), ?_⟩
  rw [hdate, htext]
  decide

end Instant

end Provisioning.Calendar
