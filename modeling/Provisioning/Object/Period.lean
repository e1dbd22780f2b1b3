import Provisioning.Object.Namespaces

/-!
# Registration periods

A number of years or months.
-/

namespace Provisioning

open Markup

/-- What a period is counted in. -/
inductive PeriodUnit where
  | year
  | month
  deriving DecidableEq

/-- The letter of a unit. -/
def PeriodUnit.label : PeriodUnit → String
  | .year => "y"
  | .month => "m"

/-- The unit of a letter. -/
def PeriodUnit.ofLabel? : String → Option PeriodUnit
  | "y" => some .year
  | "m" => some .month
  | _ => none

/-- How long an object is registered. -/
structure Period where
  unit : PeriodUnit
  value : UInt32
  deriving DecidableEq

namespace Period

def years (n : UInt32) : Period := ⟨.year, n⟩

def months (n : UInt32) : Period := ⟨.month, n⟩

/-- The period of one year is meant where none is given. -/
def default : Period := years 1

def toElement (p : Period) (k : ObjectKind) : Element :=
  (k.leaf "period" (toString p.value.toNat)).withAttr "unit" p.unit.label

/-- A period without a unit is in years. -/
def ofElement (e : Element) : Reading Period := do
  let label := (e.attr? "unit").getD "y"
  match PeriodUnit.ofLabel? label with
  | none => .error (.invalidValue "period unit" label)
  | some unit =>
    let n ← readNumber .u32 "period" e.text
    return ⟨unit, UInt32.ofNat n.toNat⟩

/-- The period of an object, if it has one. -/
def childOf (e : Element) : Reading (Option Period) :=
  match e.child? "period" with
  | none => .ok none
  | some p => (ofElement p).map some

end Period

end Provisioning
