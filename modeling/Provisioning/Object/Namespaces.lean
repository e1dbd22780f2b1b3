import Provisioning.Markup.Element

/-!
# Namespaces

The namespaces and schemas of messages, the elements of each object kind, and the namespaces that
an element of unknown kind declares. What decides the kind of such an element is which kinds it
declares a non-empty namespace for; the namespace itself is not looked at.
-/

namespace Provisioning

open Markup

/-- The namespace of messages. -/
def messageXmlns : String := "urn:ietf:params:xml:ns:epp-1.0"

/-- The schema of messages. -/
def messageSchema : String := "urn:ietf:params:xml:ns:epp-1.0 epp-1.0.xsd"

/-- The namespace of schema instances. -/
def instanceXmlns : String := "http://www.w3.org/2001/XMLSchema-instance"

namespace ObjectKind

/-- A text element of the kind. -/
def leaf (k : ObjectKind) (name text : String) : Element := .leaf (k.tag name) text

/-- An element of the kind that holds other elements. -/
def node (k : ObjectKind) (name : String) (children : List Element) : Element :=
  .node (k.tag name) children

/-- The outermost element of the kind in a command. -/
def commandRoot (k : ObjectKind) (name : String) (children : List Element) : Element :=
  { name := k.tag name
    attrs := [("xmlns:" ++ k.label, k.xmlns), ("xmlns:xsi", instanceXmlns),
      ("xsi:schemaLocation", k.schema)]
    children }

/-- The outermost element of the kind in a response; its schema is given. -/
def responseRoot (k : ObjectKind) (name schema : String) (children : List Element) : Element :=
  { name := k.tag name
    attrs := [("xmlns:" ++ k.label, k.xmlns), ("xsi:schemaLocation", schema)]
    children }

end ObjectKind

/-- The namespaces that an element declares for the three kinds, for schema instances, and its
schema. An empty one is not declared. -/
structure Namespaces where
  domain : Option String := none
  host : Option String := none
  contact : Option String := none
  xsi : Option String := none
  schema : Option String := none
  deriving DecidableEq

namespace Namespaces

/-- What an element declares. -/
def ofElement (e : Element) : Namespaces :=
  { domain := e.filledAttr? "domain"
    host := e.filledAttr? "host"
    contact := e.filledAttr? "contact"
    xsi := e.filledAttr? "xsi"
    schema := e.filledAttr? "schemaLocation" }

/-- The usual declarations of one kind. -/
def ofKind (k : ObjectKind) : Namespaces :=
  { domain := if k = .domain then some k.xmlns else none
    host := if k = .host then some k.xmlns else none
    contact := if k = .contact then some k.xmlns else none
    xsi := some instanceXmlns
    schema := some k.schema }

/-- The namespace declared for a kind. -/
def uri? (ns : Namespaces) : ObjectKind → Option String
  | .domain => ns.domain
  | .host => ns.host
  | .contact => ns.contact

/-- Whether a kind is declared. -/
def has (ns : Namespaces) (k : ObjectKind) : Bool := (ns.uri? k).isSome

/-- The declared kinds in order. -/
def kinds (ns : Namespaces) : List ObjectKind := ObjectKind.all.filter ns.has

/-- The schema, empty if there is none. -/
def schemaText (ns : Namespaces) : String := ns.schema.getD ""

/-- The value for a declared kind; a kind that is not declared keeps what it had. -/
def fill {α : Type} (ns : Namespaces) (k : ObjectKind) (value : α) (previous : Option α) : Option α :=
  if ns.has k then some value else previous

/-- The declarations as attributes of an element. -/
def declareOn (ns : Namespaces) (e : Element) : Element :=
  let kinds := ObjectKind.all.foldl (fun e k => e.withAttr? ("xmlns:" ++ k.label) (ns.uri? k)) e
  (kinds.withAttr? "xmlns:xsi" ns.xsi).withAttr? "xsi:schemaLocation" ns.schema

theorem mem_kinds {ns : Namespaces} {k : ObjectKind} : k ∈ ns.kinds ↔ ns.has k = true := by
  simp [kinds, ObjectKind.mem_all]

end Namespaces

/-- The password in the authorization element of an object, empty if it is missing there. -/
def readAuthInfo (e : Element) : Option String :=
  (e.child? "authInfo").map (·.childText "pw")

/-- The authorization element of an object. -/
def ObjectKind.authInfo (k : ObjectKind) (password : String) : Element :=
  k.node "authInfo" [k.leaf "pw" password]

/-- The status elements of an object. -/
def ObjectKind.statuses (k : ObjectKind) (statuses : List String) : List Element :=
  statuses.map fun s => (k.node "status" []).withAttr "s" s

/-- The statuses that the children of an object name. -/
def readStatuses (e : Element) : List String :=
  (e.childrenNamed "status").filterMap (·.attr? "s")

/-- The names of the hosts that serve a domain. -/
def readNameservers (e : Element) : List String :=
  ((e.child? "ns").map (·.childTexts "hostObj")).getD []

/-- The element that names the hosts that serve a domain. -/
def nameservers (hosts : List String) : Element :=
  ObjectKind.domain.node "ns" (hosts.map (ObjectKind.domain.leaf "hostObj"))

end Provisioning
