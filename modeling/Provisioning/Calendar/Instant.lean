import Provisioning.Calendar.Date
import Provisioning.Text.Numeral

/-!
# Instants and their texts

An instant is a count of seconds from the start of 1970 in UTC and a count of nanoseconds. A leap
second is the second before it with a thousand million nanoseconds more; it is shown as second 60.
-/

namespace Provisioning.Calendar

open Text

/-- A second in UTC and the nanoseconds after its start. -/
structure Instant where
  seconds : Int
  nanos : Nat
  deriving DecidableEq

/-- A date and a time of day. -/
structure Clock where
  date : Date
  hour : Nat
  minute : Nat
  second : Nat
  deriving DecidableEq

/-- The year with four digits; years outside 0 to 9999 carry their sign. -/
def yearText (y : Int) : String :=
  if 0 ≤ y ∧ y ≤ 9999 then padded 4 y.toNat
  else if 0 ≤ y then "+" ++ padded 4 y.toNat
  else "-" ++ padded 4 (-y).toNat

/-- Year, month and day. -/
def Date.text (d : Date) : String :=
  yearText d.year ++ "-" ++ padded 2 d.month ++ "-" ++ padded 2 d.day

/-- Date and time of day to the second. -/
def Clock.text (c : Clock) : String :=
  c.date.text ++ "T" ++ padded 2 c.hour ++ ":" ++ padded 2 c.minute ++ ":" ++ padded 2 c.second

namespace Instant

/-- The nanoseconds of one second. -/
def second : Nat := 1000000000

/-- The seconds of one day. -/
def day : Int := 86400

/-- The year is in range, and only the last second of a minute may hold a leap second. -/
def isValid (t : Instant) : Bool :=
  (Date.ofDays (t.seconds / day)).isValid && t.nanos < 2 * second &&
    (t.nanos < second || t.seconds % 60 == 59)

/-- What a clock in UTC shows. -/
def clock (t : Instant) : Clock :=
  let ofDay := (t.seconds % day).toNat
  { date := Date.ofDays (t.seconds / day)
    hour := ofDay / 3600
    minute := ofDay / 60 % 60
    second := ofDay % 60 + t.nanos / second }

/-- The nanoseconds within the second that the clock shows. -/
def fraction (t : Instant) : Nat := t.nanos % second

/-- The form of the protocol: four digits of the second's fraction, cut off and not rounded. -/
def text (t : Instant) : String :=
  t.clock.text ++ "." ++ padded 4 (t.fraction / 100000) ++ "Z"

/-- The fraction with as few digits as show it, by threes. -/
def fractionText (n : Nat) : String :=
  if n == 0 then ""
  else if n % 1000000 == 0 then "." ++ padded 3 (n / 1000000)
  else if n % 1000 == 0 then "." ++ padded 6 (n / 1000)
  else "." ++ padded 9 n

/-- The form of RFC 3339 with the fraction by threes, in UTC. -/
def recordText (t : Instant) : String :=
  t.clock.text ++ fractionText t.fraction ++ "Z"

/-- The start of 1970. -/
def epoch : Instant := ⟨0, 0⟩

end Instant

end Provisioning.Calendar
