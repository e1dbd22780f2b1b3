import Provisioning.Object.Namespaces

/-!
# Check: which objects exist

A check asks for any number of names of each kind. It is read as a list of bodies that only declare
their kinds; typing it appends the names of each body to the kinds it declares.
-/

namespace Provisioning

open Markup

/-- The body of a check whose kinds are only declared. -/
structure UntypedCheck where
  namespaces : Namespaces
  names : List String
  ids : List String
  deriving DecidableEq

/-- The names asked for, by kind. -/
structure Check where
  domain : Option (List String) := none
  host : Option (List String) := none
  contact : Option (List String) := none
  untyped : List UntypedCheck := []
  deriving DecidableEq

/-- Appends the names for a kind that a body declares. -/
def UntypedCheck.extend (u : UntypedCheck) (k : ObjectKind) (names : List String)
    (previous : Option (List String)) : Option (List String) :=
  u.namespaces.fill k (previous.getD [] ++ names) previous

namespace Check

/-- Adds one body to the kinds it declares. -/
def add (c : Check) (u : UntypedCheck) : Check :=
  { c with
    domain := u.extend .domain u.names c.domain
    host := u.extend .host u.names c.host
    contact := u.extend .contact u.ids c.contact }

/-- Every body under the kinds it declares; one that declares none is dropped. -/
def typed (c : Check) : Check :=
  c.untyped.foldl add { c with untyped := [] }

/-- All names asked for. -/
def targets (c : Check) : List String :=
  c.domain.getD [] ++ c.host.getD [] ++ c.contact.getD []

/-- The body for one kind. -/
def body (k : ObjectKind) (name : String) (names : List String) : Element :=
  k.commandRoot "check" (names.map (k.leaf name))

def toElement (c : Check) : Element :=
  .node "check" ((c.domain.map (body .domain "name")).toList ++
    (c.host.map (body .host "name")).toList ++ (c.contact.map (body .contact "id")).toList)

def ofElement (e : Element) : Check :=
  { untyped := (e.childrenNamed "check").map fun c =>
      ⟨.ofElement c, c.childTexts "name", c.childTexts "id"⟩ }

end Check

end Provisioning
