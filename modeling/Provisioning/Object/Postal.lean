import Provisioning.Object.Namespaces

/-!
# What is known of a contact

Postal addresses, telephone numbers, and what may be disclosed.
-/

namespace Provisioning

open Markup

/-- A postal address. -/
structure Address where
  street : List String := []
  city : String := ""
  /-- State or province. -/
  sp : Option String := none
  /-- Postal code. -/
  pc : Option String := none
  /-- Country code. -/
  cc : String := ""
  deriving DecidableEq

namespace Address

def toElement (a : Address) : Element :=
  let c := ObjectKind.contact
  c.node "addr" (a.street.map (c.leaf "street") ++ [c.leaf "city" a.city] ++
    (a.sp.map (c.leaf "sp")).toList ++ (a.pc.map (c.leaf "pc")).toList ++ [c.leaf "cc" a.cc])

def ofElement (e : Element) : Address :=
  { street := e.childTexts "street"
    city := e.childText "city"
    sp := e.filledChildText? "sp"
    pc := e.filledChildText? "pc"
    cc := e.childText "cc" }

end Address

/-- Name and address of a contact in one form, international or local. -/
structure PostalInfo where
  form : String := ""
  name : String := ""
  org : Option String := none
  address : Address := {}
  deriving DecidableEq

namespace PostalInfo

def toElement (p : PostalInfo) : Element :=
  let c := ObjectKind.contact
  (c.node "postalInfo" ([c.leaf "name" p.name] ++ (p.org.map (c.leaf "org")).toList ++
    [p.address.toElement])).withAttr "type" p.form

def ofElement (e : Element) : PostalInfo :=
  { form := (e.attr? "type").getD ""
    name := e.childText "name"
    org := e.filledChildText? "org"
    address := ((e.child? "addr").map Address.ofElement).getD {} }

/-- The forms among the children of a contact. -/
def childrenOf (e : Element) : List PostalInfo :=
  (e.childrenNamed "postalInfo").map ofElement

end PostalInfo

/-- A telephone number and its extension. -/
structure Phone where
  number : String := ""
  extension : Option String := none
  deriving DecidableEq

namespace Phone

def toElement (p : Phone) (name : String) : Element :=
  (ObjectKind.contact.leaf name p.number).withAttr? "x" p.extension

def ofElement (e : Element) : Phone := ⟨e.text, e.filledAttr? "x"⟩

/-- The number in the named child of a contact. -/
def childOf (e : Element) (name : String) : Option Phone := (e.child? name).map ofElement

end Phone

/-- Which data of a contact may be disclosed, or must not be. -/
structure Disclose where
  flag : Bool := false
  names : List String := []
  orgs : List String := []
  addrs : List String := []
  voice : Bool := false
  fax : Bool := false
  email : Bool := false
  deriving DecidableEq

/-- How a truth value is written in an attribute. -/
def flagText (b : Bool) : String := if b then "1" else "0"

/-- The two spellings of truth in an attribute; all else, and no attribute, is false. -/
def readFlag (value : Option String) : Bool := value == some "1" || value == some "true"

namespace Disclose

def toElement (d : Disclose) : Element :=
  let c := ObjectKind.contact
  let typed (name : String) (forms : List String) : List Element :=
    forms.map fun f => (c.node name []).withAttr "type" f
  let flagged (name : String) (on : Bool) : List Element := if on then [c.node name []] else []
  (c.node "disclose" (typed "name" d.names ++ typed "org" d.orgs ++ typed "addr" d.addrs ++
    flagged "voice" d.voice ++ flagged "fax" d.fax ++
    flagged "email" d.email)).withAttr "flag" (flagText d.flag)

def ofElement (e : Element) : Disclose :=
  let forms (name : String) : List String :=
    (e.childrenNamed name).map fun c => (c.attr? "type").getD ""
  { flag := readFlag (e.attr? "flag")
    names := forms "name"
    orgs := forms "org"
    addrs := forms "addr"
    voice := e.hasChild "voice"
    fax := e.hasChild "fax"
    email := e.hasChild "email" }

end Disclose

end Provisioning
