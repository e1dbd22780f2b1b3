import Provisioning.Message.Extension.Schemas
import Provisioning.Object.Postal

/-!
# Claims in the launch phase

While a top level domain is launched, a check tells for each name whether a trademark claim exists
and the key under which it is found.
-/

namespace Provisioning

open Markup

/-- Whether there is a claim on a name. -/
structure LaunchClaim where
  name : String
  claimed : Bool
  key : String
  validator : Option String
  deriving DecidableEq

/-- The claims of a phase. -/
structure LaunchCheck where
  phase : String
  claims : List LaunchClaim
  deriving DecidableEq

namespace LaunchClaim

def toElement (x : LaunchClaim) : Element :=
  .node "launch:cd" [(Element.leaf "launch:name" x.name).withAttr "exists" (flagText x.claimed),
    (Element.leaf "launch:claimKey" x.key).withAttr? "validatorID" x.validator]

def ofElement (e : Element) : LaunchClaim :=
  { name := e.childText "name"
    claimed := readFlag ((e.child? "name").bind (·.attr? "exists"))
    key := e.childText "claimKey"
    validator := (e.child? "claimKey").bind (·.filledAttr? "validatorID") }

end LaunchClaim

namespace LaunchCheck

def toElement (x : LaunchCheck) : Element :=
  { name := "launch:chkData"
    attrs := [("xmlns:launch", Extension.launchXmlns)]
    children := .leaf "launch:phase" x.phase :: x.claims.map (·.toElement) }

def ofElement (e : Element) : LaunchCheck :=
  ⟨e.childText "phase", (e.childrenNamed "cd").map LaunchClaim.ofElement⟩

end LaunchCheck

end Provisioning
