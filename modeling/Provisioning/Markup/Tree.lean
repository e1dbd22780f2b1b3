import Provisioning.Markup.Element
import Provisioning.Markup.Piece

/-!
# From pieces to the tree

The elements that are open are kept on a stack, innermost first. A closing tag has to bear exactly
the name of the innermost open element, which then becomes the last child of the next one; when
the root is closed the tree is finished, and nothing after it is looked at. Text outside the root
is skipped without a look at its entities.
-/

namespace Provisioning.Markup

/-- An element whose closing tag has not come yet; its children are kept last first. -/
structure OpenElement where
  name : List Char
  attrs : List (List Char × List Char)
  childrenRev : List Element
  text : String

namespace OpenElement

/-- An element at its opening tag. -/
def start (name : List Char) (attrs : List (List Char × List Char)) : OpenElement :=
  ⟨name, attrs, [], ""⟩

/-- More text of the element. -/
def addText (o : OpenElement) (cs : List Char) : OpenElement :=
  { o with text := o.text ++ String.ofList cs }

/-- One more child. -/
def addChild (o : OpenElement) (e : Element) : OpenElement :=
  { o with childrenRev := e :: o.childrenRev }

/-- The element at its closing tag. -/
def close (o : OpenElement) : Element :=
  { name := String.ofList o.name
    attrs := o.attrs.map fun a => (String.ofList a.1, String.ofList a.2)
    children := o.childrenRev.reverse
    text := o.text }

end OpenElement

/-- What a piece does to the open elements: the root may be finished, or more pieces are needed. -/
inductive Growth where
  | grown (stack : List OpenElement)
  | finished (root : Element)
  | broken

/-- An element that is complete goes to the innermost open element; without one it is the root. -/
def complete (e : Element) : List OpenElement → Growth
  | [] => .finished e
  | o :: os => .grown (o.addChild e :: os)

/-- Adds one piece to the open elements. -/
def grow : List OpenElement → Piece → Growth
  | stack, .aside => .grown stack
  | [], .text _ => .grown []
  | o :: os, .text raw =>
    match unescape raw with
    | some cs => .grown (o.addText cs :: os)
    | none => .broken
  | [], .verbatim _ => .grown []
  | o :: os, .verbatim data => .grown (o.addText data :: os)
  | stack, .opening name attrs => .grown (.start name attrs :: stack)
  | stack, .empty name attrs => complete (OpenElement.start name attrs).close stack
  | [], .closing _ => .broken
  | o :: os, .closing name => if name = o.name then complete o.close os else .broken

/-- Adds pieces from the front of the text until the root is finished. -/
def growTree (stack : List OpenElement) (cs : List Char) : Reading Element :=
  match h : Piece.next cs with
  | .finished => .error (if stack.isEmpty then .emptyDocument else .unexpectedEnd)
  | .broken => .error .markup
  | .piece p rest =>
    have := Piece.next_length h
    match grow stack p with
    | .grown stack => growTree stack rest
    | .finished root => .ok root
    | .broken => .error .markup
  termination_by cs.length

/-- The text without a byte order mark at its front. -/
def dropByteOrderMark : List Char → List Char
  | c :: cs => if c.toNat == 0xFEFF then cs else c :: cs
  | [] => []

/-- The root element of a document. -/
def Element.ofText (s : String) : Reading Element :=
  growTree [] (dropByteOrderMark s.toList)

end Provisioning.Markup
