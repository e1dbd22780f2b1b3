/-!
# The client's transaction identifiers

An identifier is a stem, a hyphen and a number. The numbers are taken in turn; the last one of 64
bits is followed by zero.
-/

namespace Provisioning

structure TransactionIds where
  stem : String
  /-- The number of the next identifier. -/
  number : UInt64 := 1
  deriving DecidableEq

namespace TransactionIds

/-- The next identifier. -/
def current (t : TransactionIds) : String := t.stem ++ "-" ++ toString t.number.toNat

/-- What is left once the next identifier has been taken. -/
def advance (t : TransactionIds) : TransactionIds := { t with number := t.number + 1 }

end TransactionIds

end Provisioning
