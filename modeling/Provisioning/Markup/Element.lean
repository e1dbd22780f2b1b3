import Provisioning.Fault
import Provisioning.Text.Numeral

/-!
# Elements

A document is a tree of elements: a qualified name, attributes in document order, children and
text. Messages are looked up by local name, so that a prefix never decides how they are read. Where
several children or attributes have the name, the first one counts.
-/

namespace Provisioning.Markup

/-- A name, its attributes, the elements inside and the text between them. -/
structure Element where
  name : String
  attrs : List (String × String) := []
  children : List Element := []
  text : String := ""
  deriving Inhabited

namespace Element

mutual

/-- Equality of elements is decided field by field. -/
def decEq : (a b : Element) → Decidable (a = b)
  | ⟨n, as, cs, t⟩, ⟨n', as', cs', t'⟩ =>
    match decEqList cs cs' with
    | isTrue hc =>
      if h : n = n' ∧ as = as' ∧ t = t' then
        isTrue (by obtain ⟨rfl, rfl, rfl⟩ := h; subst hc; rfl)
      else isFalse (by intro e; cases e; exact h ⟨rfl, rfl, rfl⟩)
    | isFalse hc => isFalse (by intro e; cases e; exact hc rfl)

/-- Equality of rows of elements is decided one by one. -/
def decEqList : (as bs : List Element) → Decidable (as = bs)
  | [], [] => isTrue rfl
  | [], _ :: _ => isFalse (by intro e; cases e)
  | _ :: _, [] => isFalse (by intro e; cases e)
  | a :: as, b :: bs =>
    match decEq a b with
    | isTrue h =>
      match decEqList as bs with
      | isTrue ht => isTrue (by subst h; subst ht; rfl)
      | isFalse ht => isFalse (by intro e; cases e; exact ht rfl)
    | isFalse h => isFalse (by intro e; cases e; exact h rfl)

end

instance : DecidableEq Element := decEq

end Element

/-- The part of a qualified name after its last colon. -/
def localName (qualified : String) : String :=
  String.ofList (qualified.toList.reverse.takeWhile (· != ':')).reverse

namespace Element

/-- An element that holds nothing but text. -/
def leaf (name text : String) : Element := { name, text }

/-- An element that holds nothing but other elements. -/
def node (name : String) (children : List Element) : Element := { name, children }

/-- The element with one more attribute after its others. -/
def withAttr (e : Element) (key value : String) : Element :=
  { e with attrs := e.attrs ++ [(key, value)] }

/-- The element with one more attribute if there is a value for it. -/
def withAttr? (e : Element) (key : String) : Option String → Element
  | some value => e.withAttr key value
  | none => e

/-- The name without its prefix. -/
def localName (e : Element) : String := Markup.localName e.name

/-- The value of the attribute with the local name. -/
def attr? (e : Element) (key : String) : Option String :=
  (e.attrs.find? fun a => Markup.localName a.1 == key).map Prod.snd

/-- The value of the attribute with the qualified name. -/
def exactAttr? (e : Element) (key : String) : Option String :=
  (e.attrs.find? fun a => a.1 == key).map Prod.snd

/-- The value of the attribute with the local name, unless it is empty. -/
def filledAttr? (e : Element) (key : String) : Option String :=
  (e.attr? key).filter (· != "")

/-- The child with the local name. -/
def child? (e : Element) (name : String) : Option Element :=
  e.children.find? (·.localName == name)

/-- All children with the local name. -/
def childrenNamed (e : Element) (name : String) : List Element :=
  e.children.filter (·.localName == name)

def hasChild (e : Element) (name : String) : Bool := (e.child? name).isSome

/-- The text of a child; empty when there is no such child. -/
def childText (e : Element) (name : String) : String :=
  ((e.child? name).map (·.text)).getD ""

/-- The text of a child, unless it is empty. -/
def filledChildText? (e : Element) (name : String) : Option String :=
  ((e.child? name).map (·.text)).filter (· != "")

/-- The texts of all children with the local name. -/
def childTexts (e : Element) (name : String) : List String :=
  (e.childrenNamed name).map (·.text)

/-- The child with the local name, which has to be there. -/
def require (e : Element) (name : String) : Reading Element :=
  match e.child? name with
  | some c => .ok c
  | none => .error (.missingElement name)

end Element

/-- Reads the number in a field within bounds; white space may stand around it. -/
def readNumber (b : Text.Bounds) (field text : String) : Reading Int :=
  match Text.paddedBounded? b text with
  | some n => .ok n
  | none => .error (.invalidValue field text)

end Provisioning.Markup
