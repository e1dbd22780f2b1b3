/-!
# Kinds of objects

A registry holds domains, hosts and contacts. Each kind has a prefix for its elements, a namespace
and a schema.
-/

namespace Provisioning

/-- The three kinds of objects that are provisioned. -/
inductive ObjectKind where
  | domain
  | host
  | contact
  deriving DecidableEq

namespace ObjectKind

/-- The kinds in the order in which they are looked for. -/
def all : List ObjectKind := [.domain, .host, .contact]

/-- The name of the kind, also the element prefix. -/
def label : ObjectKind → String
  | .domain => "domain"
  | .host => "host"
  | .contact => "contact"

/-- The namespace of the kind's elements. -/
def xmlns : ObjectKind → String
  | .domain => "urn:ietf:params:xml:ns:domain-1.0"
  | .host => "urn:ietf:params:xml:ns:host-1.0"
  | .contact => "urn:ietf:params:xml:ns:contact-1.0"

/-- The namespace and the file of the kind's schema. -/
def schema : ObjectKind → String
  | .domain => "urn:ietf:params:xml:ns:domain-1.0 domain-1.0.xsd"
  | .host => "urn:ietf:params:xml:ns:host-1.0 host-1.0.xsd"
  | .contact => "urn:ietf:params:xml:ns:contact-1.0 contact-1.0.xsd"

/-- An element name of the kind. -/
def tag (k : ObjectKind) (name : String) : String := k.label ++ ":" ++ name

theorem mem_all (k : ObjectKind) : k ∈ all := by cases k <;> decide

end ObjectKind

end Provisioning
