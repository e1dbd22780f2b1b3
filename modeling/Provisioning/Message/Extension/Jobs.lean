import Provisioning.Message.Extension.Schemas
import Provisioning.Object.Namespaces

/-!
# Contacts of the jobs domain

What that domain's registry knows of a contact beyond what all registries know.
-/

namespace Provisioning

open Markup

structure JobsContact where
  title : String
  website : String
  industryType : String
  isAdminContact : String
  isAssociationMember : String
  deriving DecidableEq

namespace JobsContact

def toElement (x : JobsContact) : Element :=
  { name := "jobsContact:infData"
    attrs := [("xmlns:jobsContact", Extension.jobsXmlns),
      ("xsi:schemaLocation", Extension.jobsSchema)]
    children := [.leaf "jobsContact:title" x.title, .leaf "jobsContact:website" x.website,
      .leaf "jobsContact:industryType" x.industryType,
      .leaf "jobsContact:isAdminContact" x.isAdminContact,
      .leaf "jobsContact:isAssociationMember" x.isAssociationMember] }

def ofElement (e : Element) : JobsContact :=
  { title := e.childText "title"
    website := e.childText "website"
    industryType := e.childText "industryType"
    isAdminContact := e.childText "isAdminContact"
    isAssociationMember := e.childText "isAssociationMember" }

end JobsContact

end Provisioning
