import Provisioning.Calendar.Date
import Provisioning.Message.Extension.Schemas
import Provisioning.Object.Namespaces

/-!
# Moving the day on which a registration ends

The end of a domain's registration is moved to a month and a day of the same period.
-/

namespace Provisioning

open Markup

/-- The new end of a registration, as text. -/
structure Sync where
  monthDay : String
  deriving DecidableEq

namespace Sync

/-- A month and a day as text. -/
def text (month day : Nat) : String :=
  "--" ++ Text.padded 2 month ++ "-" ++ Text.padded 2 day

/-- The day has to exist in a leap year, in which every day of any year exists. -/
def ofMonthDay (month day : Nat) : Reading Sync :=
  if (Calendar.Date.mk 2000 month day).isValid then .ok ⟨text month day⟩
  else .error (.invalidValue "expMonthDay" (text month day))

def toElement (x : Sync) : Element :=
  { name := "sync:update"
    attrs := [("xmlns:sync", Extension.syncXmlns), ("xmlns:xsi", instanceXmlns),
      ("xsi:schemaLocation", Extension.syncSchema)]
    children := [.leaf "sync:expMonthDay" x.monthDay] }

def ofElement (e : Element) : Reading Sync :=
  (e.require "expMonthDay").map fun c => ⟨c.text⟩

end Sync

end Provisioning
