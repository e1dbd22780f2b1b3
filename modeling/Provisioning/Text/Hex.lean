/-!
# Bytes in hexadecimal

Two digits for each byte. Writing uses lower case; reading takes both.
-/

namespace Provisioning.Text.Hex

/-- The digit of a number below sixteen. -/
def digit (n : Nat) : Char := Nat.digitChar n

/-- A byte as two digits. -/
def byte (b : UInt8) : List Char := [digit (b.toNat / 16), digit (b.toNat % 16)]

/-- The digits of a row of bytes. -/
def encode (bytes : List UInt8) : String :=
  String.ofList (bytes.flatMap byte)

/-- A hexadecimal digit of either case. -/
def isDigit (c : Char) : Bool :=
  c.isDigit || ('a' ≤ c && c ≤ 'f') || ('A' ≤ c && c ≤ 'F')

/-- The value of a hexadecimal digit. -/
def value? (c : Char) : Option Nat :=
  if c.isDigit then some (c.toNat - '0'.toNat)
  else if 'a' ≤ c && c ≤ 'f' then some (c.toNat - 'a'.toNat + 10)
  else if 'A' ≤ c && c ≤ 'F' then some (c.toNat - 'A'.toNat + 10)
  else none

/-- The bytes of a row of digits, appended to those read before. -/
def decodeOnto (acc : Array UInt8) : List Char → Option (Array UInt8)
  | [] => some acc
  | [_] => none
  | a :: b :: cs =>
    match value? a, value? b with
    | some x, some y => decodeOnto (acc.push (UInt8.ofNat (16 * x + y))) cs
    | _, _ => none

/-- The bytes that a text of pairs of digits denotes. -/
def decode? (s : String) : Option (List UInt8) :=
  (decodeOnto #[] s.toList).map Array.toList

end Provisioning.Text.Hex
