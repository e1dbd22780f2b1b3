import Provisioning.Text.Blank

/-!
# Decimal numerals with bounds

A numeral is an optional sign and one or more ASCII digits; a minus sign belongs to signed types
only. The value is computed exactly, whatever the number of digits, and then compared with the
bounds of the type asked for.
-/

namespace Provisioning.Text

/-- The inclusive range of an integer type. -/
structure Bounds where
  least : Int
  greatest : Int
  deriving DecidableEq

namespace Bounds

def u8 : Bounds := ⟨0, 255⟩
def u16 : Bounds := ⟨0, 65535⟩
def u32 : Bounds := ⟨0, 4294967295⟩
def u64 : Bounds := ⟨0, 18446744073709551615⟩
def i32 : Bounds := ⟨-2147483648, 2147483647⟩

/-- A type is signed when it holds negative numbers. -/
def isSigned (b : Bounds) : Bool := decide (b.least < 0)

end Bounds

/-- The value of an ASCII digit. -/
def digitValue (c : Char) : Nat := c.toNat - '0'.toNat

/-- The number that a row of digits denotes. -/
def digitsValue (ds : List Char) : Nat :=
  ds.foldl (fun n d => 10 * n + digitValue d) 0

/-- A non-empty row of ASCII digits. -/
def natural? (cs : List Char) : Option Nat :=
  if !cs.isEmpty && cs.all Char.isDigit then some (digitsValue cs) else none

/-- An optional sign and a row of digits. -/
def integer? (signed : Bool) : List Char → Option Int
  | '+' :: cs => (natural? cs).map Int.ofNat
  | '-' :: cs => if signed then (natural? cs).map fun n => -Int.ofNat n else none
  | cs => (natural? cs).map Int.ofNat

/-- The numeral that fills the text exactly and lies within the bounds. -/
def bounded? (b : Bounds) (cs : List Char) : Option Int :=
  (integer? b.isSigned cs).filter fun n => b.least ≤ n && n ≤ b.greatest

/-- The same, with white space around the numeral. -/
def paddedBounded? (b : Bounds) (s : String) : Option Int :=
  bounded? b (trim isWhiteSpace s.toList)

/-- A number in decimal, with zeros in front up to the width. -/
def padded (width n : Nat) : String :=
  let ds := Nat.toDigits 10 n
  String.ofList (List.replicate (width - ds.length) '0' ++ ds)

end Provisioning.Text
