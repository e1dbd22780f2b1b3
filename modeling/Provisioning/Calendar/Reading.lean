import Provisioning.Calendar.Instant
import Provisioning.Fault

/-!
# Reading dates and times

Two forms are read: the date-time of the protocol without a fraction, which is cut down to its date,
and the date-time of RFC 3339, in which white space may stand before each number and the separator
of date and time is a space or the letter T. Numbers may have fewer digits than their width, and a
year with a sign may have more. A second of 60 is a leap second.
-/

namespace Provisioning.Calendar

open Text

/-- A reader takes a value from the front of the text and leaves the rest. -/
abbrev Reader (α : Type) := List Char → Option (α × List Char)

/-- A row of at least one and at most `width` digits. -/
def readDigits (width : Nat) : Reader Nat := fun cs =>
  let ds := (cs.take width).takeWhile Char.isDigit
  if ds.isEmpty then none else some (digitsValue ds, cs.drop ds.length)

/-- A number of at most `width` digits after any white space. -/
def readField (width : Nat) : Reader Nat := fun cs =>
  readDigits width (trimLeft isWhiteSpace cs)

/-- A year: four digits at most, or a sign and any number of digits. -/
def readYear : Reader Int := fun cs =>
  match trimLeft isWhiteSpace cs with
  | '-' :: cs => (readDigits cs.length cs).map fun (n, rest) => (-Int.ofNat n, rest)
  | '+' :: cs => (readDigits cs.length cs).map fun (n, rest) => (Int.ofNat n, rest)
  | cs => (readDigits 4 cs).map fun (n, rest) => (Int.ofNat n, rest)

/-- One given character. -/
def readMark (c : Char) : Reader Unit := fun
  | d :: cs => if c = d then some ((), cs) else none
  | [] => none

/-- The white space at the front is dropped. -/
def skipBlank : Reader Unit := fun cs => some ((), trimLeft isWhiteSpace cs)

/-- The first of several characters that stands at the front. -/
def readOneOf (marks : List Char) : Reader Unit := fun
  | d :: cs => if marks.contains d then some ((), cs) else none
  | [] => none

/-- A time of day, its last part at most 60. -/
structure TimeOfDay where
  hour : Nat
  minute : Nat
  second : Nat

/-- The hours, minutes and seconds lie in their ranges. -/
def TimeOfDay.isValid (t : TimeOfDay) : Bool :=
  t.hour ≤ 23 && t.minute ≤ 59 && t.second ≤ 60

/-- The date of a date-time that ends in the letter Z and has no fraction. -/
def dateOfDateTime? (s : String) : Option Date := do
  let (year, cs) ← readYear s.toList
  let (_, cs) ← readMark '-' cs
  let (month, cs) ← readField 2 cs
  let (_, cs) ← readMark '-' cs
  let (day, cs) ← readField 2 cs
  let (_, cs) ← readMark 'T' cs
  let (hour, cs) ← readField 2 cs
  let (_, cs) ← readMark ':' cs
  let (minute, cs) ← readField 2 cs
  let (_, cs) ← readMark ':' cs
  let (second, cs) ← readField 2 cs
  let (_, cs) ← readMark 'Z' cs
  let date : Date := ⟨year, month, day⟩
  let time : TimeOfDay := ⟨hour, minute, second⟩
  if cs.isEmpty && date.isValid && time.isValid then some date else none

/-- A date-time cut down to the text of its date. -/
def dateText (s : String) : Reading String :=
  match dateOfDateTime? s with
  | some d => .ok d.text
  | none => .error (.invalidValue "dateTime" s)

/-- The fraction of a second after a point, in nanoseconds; digits after the ninth are dropped. -/
def readFraction : Reader Nat := fun
  | '.' :: cs => do
    let ds := (cs.take 9).takeWhile Char.isDigit
    if ds.isEmpty then none
    else some (digitsValue ds * Nat.pow 10 (9 - ds.length), cs.dropWhile Char.isDigit)
  | cs => some (0, cs)

/-- Two digits. -/
def readTwoDigits : Reader Nat := fun
  | a :: b :: cs => if a.isDigit && b.isDigit then some (digitsValue [a, b], cs) else none
  | _ => none

/-- A sign for an offset: plus, hyphen or the minus sign of Unicode. -/
def readOffsetSign : Reader Int := fun
  | '+' :: cs => some (1, cs)
  | '-' :: cs => some (-1, cs)
  | '−' :: cs => some (-1, cs)
  | _ => none

/-- The letters that name UTC. -/
def readUtc : Reader Unit := fun
  | 'Z' :: cs => some ((), cs)
  | 'z' :: cs => some ((), cs)
  | u :: t :: c :: cs =>
    if [u, t, c].map Char.toUpper = ['U', 'T', 'C'] then some ((), cs) else none
  | _ => none

/-- The offset from UTC in seconds: less than a day, in hours and minutes. -/
def readOffset : Reader Int := fun cs =>
  match readUtc cs with
  | some (_, rest) => some (0, rest)
  | none => do
    let (sign, cs) ← readOffsetSign cs
    let (hours, cs) ← readTwoDigits cs
    let (minutes, cs) ← readTwoDigits (cs.dropWhile fun c => c == ':' || isWhiteSpace c)
    if hours ≤ 23 && minutes ≤ 59 then some (sign * (hours * 3600 + minutes * 60), cs) else none

/-- The instant of a date-time with an offset. -/
def Instant.ofText? (s : String) : Option Instant := do
  let (year, cs) ← readYear s.toList
  let (_, cs) ← skipBlank cs
  let (_, cs) ← readMark '-' cs
  let (month, cs) ← readField 2 cs
  let (_, cs) ← skipBlank cs
  let (_, cs) ← readMark '-' cs
  let (day, cs) ← readField 2 cs
  let (_, cs) ← readOneOf ['t', 'T', ' '] cs
  let (hour, cs) ← readField 2 cs
  let (_, cs) ← skipBlank cs
  let (_, cs) ← readMark ':' cs
  let (minute, cs) ← readField 2 cs
  let (_, cs) ← skipBlank cs
  let (_, cs) ← readMark ':' cs
  let (second, cs) ← readField 2 cs
  let (fraction, cs) ← readFraction cs
  let (offset, cs) ← readOffset (trimLeft isWhiteSpace cs)
  let date : Date := ⟨year, month, day⟩
  let time : TimeOfDay := ⟨hour, minute, second⟩
  let shown := min second 59
  let instant : Instant :=
    { seconds := date.toDays * Instant.day + hour * 3600 + minute * 60 + shown - offset
      nanos := fraction + (second - shown) * Instant.second }
  if (trimLeft isWhiteSpace cs).isEmpty && date.isValid && time.isValid && instant.isValid then
    some instant
  else none

end Provisioning.Calendar
