import Provisioning.Json.Value
import Provisioning.Object.Address
import Provisioning.Object.Contact
import Provisioning.Object.Period
import Provisioning.Object.Postal

/-!
# Parts of objects in JSON

The parts that several messages share. A password is told as a record of its own.
-/

namespace Provisioning

open Json (field field? items?)

instance : ToJson ObjectKind := ⟨fun k => .text k.label⟩
instance : ToJson PeriodUnit := ⟨fun u => .text u.label⟩
instance : ToJson ContactRole := ⟨fun r => .text r.label⟩
instance : ToJson IpVersion := ⟨fun v => .text v.label⟩

instance : OfJson PeriodUnit where ofJson? := Json.named PeriodUnit.ofLabel?
instance : OfJson ContactRole where
  ofJson? := Json.named fun s => (ContactRole.ofName s).toOption
instance : OfJson IpVersion where ofJson? := Json.named IpVersion.ofLabel?

instance : ToJson Period := ⟨fun p => .record (field "unit" p.unit ++ field "value" p.value)⟩

instance : OfJson Period where
  ofJson? j := do
    return { unit := ← j.read "unit"
             value := ← j.read "value" }

/-- The authorization of an object in JSON. -/
def authInfoJson (password : Option String) : Option Json :=
  password.map fun p => .record (field "password" p)

/-- The authorization of an object, read from its record. -/
def readAuthInfoJson (j : Json) : Option (Option String) :=
  match j.get? "auth_info" with
  | none => some none
  | some a => (a.read "password" : Option String).map some

instance : ToJson DomainContact :=
  ⟨fun c => .record (field "contact_type" c.role ++ field "id" c.id)⟩

instance : OfJson DomainContact where
  ofJson? j := do
    return { role := ← j.read "contact_type"
             id := ← j.read "id" }

instance : ToJson UntypedContact :=
  ⟨fun c => .record (field "contact_type" c.role ++ field "id" c.id)⟩

instance : OfJson UntypedContact where
  ofJson? j := do
    return { role := ← j.read "contact_type"
             id := ← j.read "id" }

instance : ToJson HostAddress :=
  ⟨fun a => .record (field "ip" a.ip ++ field "address" a.address)⟩

instance : OfJson HostAddress where
  ofJson? j := do
    return { ip := ← j.read "ip"
             address := ← j.read "address" }

instance : ToJson UntypedAddress :=
  ⟨fun a => .record (field "ip" a.ip ++ field "address" a.address)⟩

instance : OfJson UntypedAddress where
  ofJson? j := do
    return { ip := ← j.read "ip"
             address := ← j.read "address" }

instance : ToJson Address :=
  ⟨fun a => .record (field "street" a.street ++ field "city" a.city ++ field "sp" a.sp ++
    field "pc" a.pc ++ field "cc" a.cc)⟩

instance : OfJson Address where
  ofJson? j := do
    return { street := ← j.read "street"
             city := ← j.read "city"
             sp := ← j.read "sp"
             pc := ← j.read "pc"
             cc := ← j.read "cc" }

instance : ToJson PostalInfo :=
  ⟨fun p => .record (field "postal_type" p.form ++ field "name" p.name ++ field "org" p.org ++
    field "address" p.address)⟩

instance : OfJson PostalInfo where
  ofJson? j := do
    return { form := ← j.read "postal_type"
             name := ← j.read "name"
             org := ← j.read "org"
             address := ← j.read "address" }

instance : ToJson Phone :=
  ⟨fun p => .record (field "number" p.number ++ field "extension" p.extension)⟩

instance : OfJson Phone where
  ofJson? j := do
    return { number := ← j.read "number"
             extension := ← j.read "extension" }

instance : ToJson Disclose :=
  ⟨fun d => .record (field "flag" d.flag ++ field "names" d.names ++ field "orgs" d.orgs ++
    field "addrs" d.addrs ++ field "voice" d.voice ++ field "fax" d.fax ++ field "email" d.email)⟩

instance : OfJson Disclose where
  ofJson? j := do
    return { flag := ← j.read "flag"
             names := ← j.read "names"
             orgs := ← j.read "orgs"
             addrs := ← j.read "addrs"
             voice := ← j.read "voice"
             fax := ← j.read "fax"
             email := ← j.read "email" }

instance : ToJson Namespaces :=
  ⟨fun ns => .record (field? "domain" ns.domain ++ field? "host" ns.host ++
    field? "contact" ns.contact ++ field? "xsi" ns.xsi ++ field? "schema_location" ns.schema)⟩

instance : OfJson Namespaces where
  ofJson? j := do
    return { domain := ← j.read "domain"
             host := ← j.read "host"
             contact := ← j.read "contact"
             xsi := ← j.read "xsi"
             schema := ← j.read "schema_location" }

/-- An element in JSON. -/
def Markup.Element.toJson : Markup.Element → Json
  | ⟨name, attrs, children, text⟩ =>
    .record (field "name" name ++ field "attrs" attrs ++
      [("children", .list (children.map toJson))] ++ field "text" text)

instance : ToJson Markup.Element := ⟨Markup.Element.toJson⟩

mutual

/-- An element told in JSON. -/
def Markup.Element.ofJson? : Json → Option Markup.Element
  | .record fields => do
    let j := Json.record fields
    return { name := ← j.read "name"
             attrs := ← j.read "attrs"
             children := ← elementsOfFields fields
             text := ← j.read "text" }
  | _ => none

/-- The elements in the field of the children. -/
def elementsOfFields : List (String × Json) → Option (List Markup.Element)
  | [] => some []
  | (key, .list items) :: fields =>
    if key = "children" then elementsOfJson items else elementsOfFields fields
  | _ :: fields => elementsOfFields fields

/-- Elements told in JSON. -/
def elementsOfJson : List Json → Option (List Markup.Element)
  | [] => some []
  | j :: js => do return (← Markup.Element.ofJson? j) :: (← elementsOfJson js)

end

instance : OfJson Markup.Element where ofJson? := Markup.Element.ofJson?

end Provisioning
