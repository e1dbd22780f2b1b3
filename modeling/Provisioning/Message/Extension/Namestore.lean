import Provisioning.Message.Extension.Schemas
import Provisioning.Object.Namespaces
import Provisioning.Text.Upper

/-!
# Products and the names they hold

A registry that holds several products has to be told which one a command is about. The product
follows from the name: a policy lists labels with their products, and the first label that the
name ends in, in upper case, decides.
-/

namespace Provisioning

open Markup

/-- The products that a command is about. -/
structure Namestore where
  products : List String
  deriving DecidableEq

namespace Namestore

def toElement (x : Namestore) : Element :=
  { name := "namestoreExt:namestoreExt"
    attrs := [("xmlns:namestoreExt", Extension.namestoreXmlns), ("xmlns:xsi", instanceXmlns),
      ("xsi:schemaLocation", Extension.namestoreSchema)]
    children := x.products.map (.leaf "namestoreExt:subProduct") }

def ofElement (e : Element) : Namestore := ⟨e.childTexts "subProduct"⟩

end Namestore

/-- Labels and their products; earlier ones count first. -/
structure NamestorePolicy where
  entries : List (String × String)
  deriving DecidableEq

namespace NamestorePolicy

def empty : NamestorePolicy := ⟨[]⟩

/-- One more label, which is kept in upper case. -/
def withLabel (p : NamestorePolicy) (label product : String) : NamestorePolicy :=
  ⟨p.entries ++ [(Text.upper label, product)]⟩

/-- The policy of commands that are not given one. -/
def standard : NamestorePolicy := (empty.withLabel ".COM" "dotCOM").withLabel ".NET" "dotNET"

/-- The product of the first label that the name ends in. -/
def product? (p : NamestorePolicy) (name : String) : Option String :=
  let name := (Text.upper name).toList
  (p.entries.find? fun entry => entry.1.toList.isSuffixOf name).map Prod.snd

end NamestorePolicy

end Provisioning
