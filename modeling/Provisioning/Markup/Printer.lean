import Provisioning.Markup.Element
import Provisioning.Markup.Entity

/-!
# The written form of a tree

Every child stands on a line of its own, indented by two spaces more than its parent. Text stands
before the children. An element always has a closing tag, also when it is empty. `print` says what is
written; a document is printed by `printOnto`, which writes the same (`printOnto_eq`).
-/

namespace Provisioning.Markup.Element

/-- Two spaces for each level. -/
def indent (depth : Nat) : List Char := List.replicate (2 * depth) ' '

/-- The attributes of a tag, each after a space. -/
def printAttrs (attrs : List (String × String)) : List Char :=
  attrs.flatMap fun a => ' ' :: a.1.toList ++ '=' :: '"' :: escape a.2.toList ++ ['"']

mutual

/-- The lines of an element at a depth, without a line end after the last one. -/
def print (depth : Nat) : Element → List Char
  | ⟨name, attrs, children, text⟩ =>
    indent depth ++ '<' :: name.toList ++ printAttrs attrs ++ '>' :: escape text.toList ++
      printChildren depth children ++
      '<' :: '/' :: name.toList ++ ['>']

/-- The children of an element at a depth, each on its own line, and the indentation of the closing
tag; nothing when there are no children. -/
def printChildren (depth : Nat) : List Element → List Char
  | [] => []
  | e :: es => '\n' :: print (depth + 1) e ++ printSiblings depth es

/-- The children after the first. -/
def printSiblings (depth : Nat) : List Element → List Char
  | [] => '\n' :: indent depth
  | e :: es => '\n' :: print (depth + 1) e ++ printSiblings depth es

end

/-! ## Printing before what follows

Appending the lines of an element to those of its parent would copy them once for every level. They
are put before what follows them instead, which copies nothing and writes the same.
-/

mutual

/-- The lines of an element at a depth before what follows. -/
def printOnto (depth : Nat) : Element → List Char → List Char
  | ⟨name, attrs, children, text⟩, rest =>
    indent depth ++ '<' :: (name.toList ++ (printAttrs attrs ++ '>' :: (escape text.toList ++
      printChildrenOnto depth children ('<' :: '/' :: (name.toList ++ '>' :: rest)))))

/-- The children of an element before what follows. -/
def printChildrenOnto (depth : Nat) : List Element → List Char → List Char
  | [], rest => rest
  | e :: es, rest => '\n' :: printOnto (depth + 1) e (printSiblingsOnto depth es rest)

/-- The children after the first before what follows. -/
def printSiblingsOnto (depth : Nat) : List Element → List Char → List Char
  | [], rest => '\n' :: (indent depth ++ rest)
  | e :: es, rest => '\n' :: printOnto (depth + 1) e (printSiblingsOnto depth es rest)

end

mutual

theorem printOnto_eq (depth : Nat) : (e : Element) → (rest : List Char) →
    printOnto depth e rest = print depth e ++ rest
  | ⟨name, attrs, children, text⟩, rest => by
    simp [printOnto, print, printChildrenOnto_eq depth children]

theorem printChildrenOnto_eq (depth : Nat) : (es : List Element) → (rest : List Char) →
    printChildrenOnto depth es rest = printChildren depth es ++ rest
  | [], rest => by simp [printChildrenOnto, printChildren]
  | e :: es, rest => by
    simp [printChildrenOnto, printChildren, printOnto_eq (depth + 1) e,
      printSiblingsOnto_eq depth es]

theorem printSiblingsOnto_eq (depth : Nat) : (es : List Element) → (rest : List Char) →
    printSiblingsOnto depth es rest = printSiblings depth es ++ rest
  | [], rest => by simp [printSiblingsOnto, printSiblings]
  | e :: es, rest => by
    simp [printSiblingsOnto, printSiblings, printOnto_eq (depth + 1) e,
      printSiblingsOnto_eq depth es]

end

/-- The document that has the element as its root. -/
def toText (e : Element) : String := String.ofList (printOnto 0 e [])

theorem toText_eq (e : Element) : e.toText = String.ofList (print 0 e) := by
  simp [toText, printOnto_eq]

end Provisioning.Markup.Element
