import Provisioning.Proofs.Markup.Lookup
import Provisioning.Object.Namespaces

/-!
# What is built for a kind

The elements of an object carry the prefix of its kind, which no reader looks at, and the outermost
one declares the kind, which typing looks at. So what is built for a kind is found by its plain
names, and is given to this kind and no other.
-/

namespace Provisioning

open Markup Markup.Element

namespace ObjectKind

variable (k : ObjectKind)

/-! ## What the builders hold -/

theorem localName_tag {name : String} (h : ':' ∉ name.toList) :
    Markup.localName (k.tag name) = name := localName_prefixed k.label h

@[simp] theorem localName_leaf {name : String} (h : ':' ∉ name.toList) (text : String) :
    (k.leaf name text).localName = name := k.localName_tag h

@[simp] theorem text_leaf (name text : String) : (k.leaf name text).text = text := rfl

@[simp] theorem attrs_leaf (name text : String) : (k.leaf name text).attrs = [] := rfl

@[simp] theorem localName_node {name : String} (h : ':' ∉ name.toList) (children : List Element) :
    (k.node name children).localName = name := k.localName_tag h

@[simp] theorem children_node (name : String) (children : List Element) :
    (k.node name children).children = children := rfl

@[simp] theorem attrs_node (name : String) (children : List Element) :
    (k.node name children).attrs = [] := rfl

@[simp] theorem localName_commandRoot {name : String} (h : ':' ∉ name.toList)
    (children : List Element) : (k.commandRoot name children).localName = name := k.localName_tag h

@[simp] theorem children_commandRoot (name : String) (children : List Element) :
    (k.commandRoot name children).children = children := rfl

@[simp] theorem localName_responseRoot {name : String} (h : ':' ∉ name.toList) (schema : String)
    (children : List Element) : (k.responseRoot name schema children).localName = name :=
  k.localName_tag h

@[simp] theorem children_responseRoot (name schema : String) (children : List Element) :
    (k.responseRoot name schema children).children = children := rfl

@[simp] theorem attr?_leaf (name text key : String) : (k.leaf name text).attr? key = none := rfl

@[simp] theorem attr?_node (name : String) (children : List Element) (key : String) :
    (k.node name children).attr? key = none := rfl

/-! ## Their names -/

theorem isName_tag {name : String} (h : isName name = true) : isName (k.tag name) = true := by
  refine isName_prefixed ?_ h
  cases k <;> decide

@[simp] theorem wellNamed_leaf {name : String} (h : isName name = true) (text : String) :
    (k.leaf name text).WellNamed := Element.wellNamed_leaf.mpr (k.isName_tag h)

@[simp] theorem wellNamed_node {name : String} (h : isName name = true) {children : List Element} :
    (k.node name children).WellNamed ↔ ∀ c ∈ children, c.WellNamed := by
  rw [node, Element.wellNamed_node]
  exact and_iff_right (k.isName_tag h)

@[simp] theorem wellNamed_commandRoot {name : String} (h : isName name = true)
    {children : List Element} :
    (k.commandRoot name children).WellNamed ↔ ∀ c ∈ children, c.WellNamed := by
  constructor
  · rintro ⟨-, -, -, hchildren⟩
    exact hchildren
  · refine fun hchildren => .intro (k.isName_tag h) ?_ ?_ hchildren
    · cases k <;> simp +decide [commandRoot, label]
    · cases k <;> simp [commandRoot, label]

@[simp] theorem wellNamed_responseRoot {name : String} (h : isName name = true) {schema : String}
    {children : List Element} :
    (k.responseRoot name schema children).WellNamed ↔ ∀ c ∈ children, c.WellNamed := by
  constructor
  · rintro ⟨-, -, -, hchildren⟩
    exact hchildren
  · refine fun hchildren => .intro (k.isName_tag h) ?_ ?_ hchildren
    · cases k <;> simp +decide [responseRoot, label]
    · cases k <;> simp [responseRoot, label]

end ObjectKind

/-! ## The kind that is declared -/

theorem localName_xmlns (k : ObjectKind) : Markup.localName ("xmlns:" ++ k.label) = k.label := by
  cases k <;> decide

theorem localName_xsi : Markup.localName "xmlns:xsi" = "xsi" := by decide

theorem localName_schemaLocation : Markup.localName "xsi:schemaLocation" = "schemaLocation" := by
  decide

namespace Namespaces

variable (k : ObjectKind) (name schema : String) (children : List Element)

@[simp] theorem ofElement_trimmed (e : Element) : ofElement e.trimmed = ofElement e := by
  simp [ofElement]

/-- A command declares its kind as usual. -/
@[simp] theorem ofElement_commandRoot : ofElement (k.commandRoot name children) = ofKind k := by
  have hxmlns := localName_xmlns k
  cases k <;>
    simp_all [ofElement, ofKind, attr?, ObjectKind.commandRoot, ObjectKind.label, localName_xsi,
      localName_schemaLocation, filled, Option.filter, ObjectKind.xmlns, ObjectKind.schema,
      instanceXmlns]

/-- What a response declares for its kind; the schema may be missing. -/
def ofResponse (k : ObjectKind) (schema : String) : Namespaces :=
  { ofKind k with xsi := none, schema := filled (some schema) }

@[simp] theorem ofElement_responseRoot :
    ofElement (k.responseRoot name schema children) = ofResponse k schema := by
  have hxmlns := localName_xmlns k
  cases k <;>
    simp_all [ofElement, ofResponse, ofKind, attr?, ObjectKind.responseRoot, ObjectKind.label,
      localName_schemaLocation, filled, Option.filter, ObjectKind.xmlns]

theorem has_ofKind (j : ObjectKind) : (ofKind k).has j = decide (j = k) := by
  cases j <;> cases k <;> rfl

theorem has_ofResponse (j : ObjectKind) : (ofResponse k schema).has j = decide (j = k) := by
  cases j <;> cases k <;> rfl

@[simp] theorem schemaText_ofResponse : (ofResponse k schema).schemaText = schema := by
  by_cases h : schema = "" <;> simp [schemaText, ofResponse, filled, Option.filter, h]

/-- A command is given to the kind that it declares, and to no other. -/
@[simp] theorem fill_ofKind {α : Type} (j : ObjectKind) (value : α) (previous : Option α) :
    (ofKind k).fill j value previous = if j = k then some value else previous := by
  simp [fill, has_ofKind]

@[simp] theorem fill_ofResponse {α : Type} (j : ObjectKind) (value : α) (previous : Option α) :
    (ofResponse k schema).fill j value previous = if j = k then some value else previous := by
  simp [fill, has_ofResponse]

end Namespaces

end Provisioning
